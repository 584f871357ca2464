import Einsof.Kernel.Order
import Einsof.Native.Preflight
import Einsof.Native.Transcript

namespace Argus

open Fallible (Alike)

structure ActionPolicySnapshotN.Same (p q : ActionPolicySnapshotN) : Prop where
  tool : p.tool = q.tool
  requiredCaps : ∀ cap, cap ∈ p.requiredCaps ↔ cap ∈ q.requiredCaps
  confClearance : p.confClearance = q.confClearance
  integFloor : p.integFloor = q.integFloor
  integInspect : p.integInspect = q.integInspect
  outputConf : p.outputConf = q.outputConf
  outputInteg : p.outputInteg = q.outputInteg
  declaredEgress : ∀ e, e ∈ p.declaredEgress ↔ e ∈ q.declaredEgress
  policyDigest : p.policyDigest = q.policyDigest

/-- The same command, but for the order and the repetitions in the set-valued lists of a begin. -/
inductive CommandN.Same : CommandN → CommandN → Prop
  | refl (command : CommandN) : Same command command
  | begin {agent inv challenge argsHash : String} {policy policy' : ActionPolicySnapshotN}
      {egress egress' : List EgressKind} {authorized : Bool} (policies : policy.Same policy')
      (channels : ∀ e, e ∈ egress ↔ e ∈ egress') :
      Same (.beginInvocation agent inv challenge policy egress argsHash authorized)
        (.beginInvocation agent inv challenge policy' egress' argsHash authorized)

/-- The set-valued lists of a begin are within the length limits. -/
def CommandN.SetsFit : CommandN → Prop
  | .beginInvocation _ _ _ policy egress _ _ => policy.requiredCaps.length ≤ maxCapabilities ∧
    policy.declaredEgress.length ≤ maxEgressKinds ∧ egress.length ≤ maxEgressKinds
  | _ => True

theorem ActionPolicySnapshotN.Same.intoKernel {p q : ActionPolicySnapshotN} (same : p.Same q) :
    p.intoKernel.Same q.intoKernel where
  tool := congrArg ToolId.mk same.tool
  requiredCaps := VecSet.same_fromIter same.requiredCaps
  confClearance := same.confClearance
  integFloor := same.integFloor
  integInspect := same.integInspect
  outputConf := same.outputConf
  outputInteg := same.outputInteg
  declaredEgress := VecSet.same_fromIter same.declaredEgress
  policyDigest := congrArg PolicyDigest.mk same.policyDigest

theorem CommandN.Same.intoKernel {c d : CommandN} (same : c.Same d) :
    c.intoKernel.Same d.intoKernel := by
  cases same with
  | refl => exact .refl _
  | begin policies channels => exact .begin policies.intoKernel (VecSet.same_fromIter channels)

theorem ActionPolicySnapshotN.same_iff {p q : ActionPolicySnapshotN} :
    p.Same q ↔ p.normalized = q.normalized := by
  constructor
  · intro same
    simp only [normalized, mk.injEq, normalizedSet_eq_iff]
    exact ⟨same.tool, same.requiredCaps, same.confClearance, same.integFloor, same.integInspect,
      same.outputConf, same.outputInteg, same.declaredEgress, same.policyDigest⟩
  · intro same
    simp only [normalized, mk.injEq, normalizedSet_eq_iff] at same
    rcases same with ⟨tool, caps, clearance, floor, inspect, conf, integ, declared, digest⟩
    exact ⟨tool, caps, clearance, floor, inspect, conf, integ, declared, digest⟩

theorem CommandN.same_iff {c d : CommandN} : c.Same d ↔ c.normalized = d.normalized := by
  constructor
  · intro same
    cases same with
    | refl => rfl
    | begin policies channels =>
      simp only [normalized, ActionPolicySnapshotN.same_iff.mp policies,
        normalizedSet_eq_iff.mpr channels]
  · intro same
    cases c with
    | beginInvocation agent inv challenge policy egress argsHash authorized =>
      cases d with
      | beginInvocation agent' inv' challenge' policy' egress' argsHash' authorized' =>
        simp only [normalized, beginInvocation.injEq, normalizedSet_eq_iff] at same
        obtain ⟨rfl, rfl, rfl, policies, channels, rfl, rfl⟩ := same
        exact .begin (ActionPolicySnapshotN.same_iff.mpr policies) channels
      | _ => cases same
    | _ =>
      cases d <;> first | (cases same; exact .refl _) | cases same

/-- Commands that differ in order only are written alike. -/
theorem CommandN.Same.written {c d : CommandN} (same : c.Same d) : writeCanonical c = writeCanonical d := by
  cases same with
  | refl => rfl
  | @begin _ _ _ _ policy policy' egress egress' _ policies channels =>
    have policyWritten : writeCanonical policy = writeCanonical policy' := by
      simp only [writeCanonical, canonicalSet_eq, policies.tool, policies.confClearance,
        policies.integFloor, policies.integInspect, policies.outputConf, policies.outputInteg,
        policies.policyDigest, normalizedSet_eq_iff.mpr policies.requiredCaps,
        normalizedSet_eq_iff.mpr policies.declaredEgress]
    have egressWritten : Transcript.canonicalSet egress = Transcript.canonicalSet egress' := by
      rw [canonicalSet_eq, canonicalSet_eq, normalizedSet_eq_iff.mpr channels]
    simp only [writeCanonical] at policyWritten ⊢
    rw [policyWritten, egressWritten]

section Observed

/-- Sorting forgets the order, where the order tells the entries apart. -/
theorem insertionSort_of_perm {α : Type} (r : α → α → Prop) [DecidableRel r] [Std.Total r] [IsTrans α r]
    {xs ys : List α} (perm : xs.Perm ys)
    (apart : ∀ x ∈ xs, ∀ y ∈ xs, r x y → r y x → x = y) : xs.insertionSort r = ys.insertionSort r := by
  have sorted : (xs.insertionSort r).Perm (ys.insertionSort r) :=
    ((List.perm_insertionSort r xs).trans perm).trans (List.perm_insertionSort r ys).symm
  apply sorted.eq_of_pairwise ?_ (List.pairwise_insertionSort r xs) (List.pairwise_insertionSort r ys)
  intro x y left right
  exact apart x ((List.mem_insertionSort r).mp left) y (perm.mem_iff.mpr ((List.mem_insertionSort r).mp right))

theorem bytesLe_antisymm {a b : String} (up : bytesLe a b) (down : bytesLe b a) : a = b := by
  have bytes : a.toByteArray.data.toList = b.toByteArray.data.toList := List.le_antisymm up down
  exact String.toByteArray_inj.mp (ByteArray.ext (Array.toList_inj.mp bytes))

instance : Std.Total bytesLe := ⟨fun a b => List.le_total a.toByteArray.data.toList b.toByteArray.data.toList⟩

instance : IsTrans String bytesLe := ⟨fun _ _ _ first second => List.le_trans first second⟩

theorem sortByTag_same {T : Type} [CanonicalTag T] [LawfulTag T] {s t : VecSet T} (same : s.Same t) :
    sortByTag s.items = sortByTag t.items :=
  insertionSort_of_perm _ same.perm fun _ _ _ _ up down =>
    LawfulTag.injective (UInt8.le_antisymm up down)

theorem sortStrings_same {T : Type} {s t : VecSet T} (same : s.Same t) (val : T → String) :
    sortStrings (s.items.map val) = sortStrings (t.items.map val) :=
  insertionSort_of_perm _ (same.perm.map val) fun _ _ _ _ => bytesLe_antisymm

theorem key_apart {K V U κ : Type} (m : VecMap K V) {key : K → κ} (injective : Function.Injective key)
    (f : V → U) : ∀ x ∈ m.entries.map (fun e => (key e.1, f e.2)),
      ∀ y ∈ m.entries.map (fun e => (key e.1, f e.2)), x.1 = y.1 → x = y := by
  have unique : ((m.entries.map fun e => (key e.1, f e.2)).map Prod.fst).Nodup := by
    have keys := m.unique.map injective
    rwa [List.map_map] at keys ⊢
  intro x left y right
  exact List.inj_on_of_nodup_map unique left right

theorem sortStringMap_same {K V W U : Type} [DecidableEq K] {R : V → W → Prop} {m : VecMap K V}
    {n : VecMap K W} (same : m.Same R n) {key : K → String} (injective : Function.Injective key)
    {f : V → U} {g : W → U} (alike : ∀ v w, R v w → f v = g w) :
    sortStringMap (m.entries.map fun e => (key e.1, f e.2)) =
      sortStringMap (n.entries.map fun e => (key e.1, g e.2)) := by
  have perm := same.map_perm (f := fun k v => (key k, f v)) (g := fun k w => (key k, g w))
    fun k v w related => by rw [alike v w related]
  have total : Std.Total fun left right : String × U => bytesLe left.1 right.1 :=
    ⟨fun left right => Std.Total.total left.1 right.1⟩
  have trans : IsTrans (String × U) fun left right => bytesLe left.1 right.1 :=
    ⟨fun _ _ _ first second => IsTrans.trans (r := bytesLe) _ _ _ first second⟩
  exact insertionSort_of_perm _ perm fun x left y right up down =>
    key_apart m injective f x left y right (bytesLe_antisymm up down)

theorem policyFromKernel_same {p q : ActionPolicySnapshot} (same : p.Same q) :
    policyFromKernel p = policyFromKernel q := by
  simp only [policyFromKernel, same.tool, sortByTag_same same.requiredCaps, same.confClearance,
    same.integFloor, same.integInspect, same.outputConf, same.outputInteg,
    sortByTag_same same.declaredEgress, same.policyDigest]

theorem pendingFromKernel_same {j k : PendingInvocation} (same : j.Same k) :
    pendingFromKernel j = pendingFromKernel k := by
  simp only [pendingFromKernel, same.agent, policyFromKernel_same same.policy,
    sortByTag_same same.egress, same.admission, same.disposition, same.authorized, same.quarantined]

theorem challengeFromKernel_same {x y : ChallengeScope} (same : x.Same y) :
    challengeFromKernel x = challengeFromKernel y := by
  simp only [challengeFromKernel, same.challenge, same.agent, policyFromKernel_same same.policy,
    sortByTag_same same.egress, same.argsHash, same.authorized]

/-- The order of the observed grants: by holder, then by assignment. -/
def grantLe (left right : (String × String) × CrossingGrant) : Prop :=
  left.1.1 ≠ right.1.1 ∧ bytesLe left.1.1 right.1.1 ∨ left.1.1 = right.1.1 ∧ bytesLe left.1.2 right.1.2

instance : DecidableRel grantLe := fun left right =>
  inferInstanceAs (Decidable (left.1.1 ≠ right.1.1 ∧ bytesLe left.1.1 right.1.1 ∨
    left.1.1 = right.1.1 ∧ bytesLe left.1.2 right.1.2))

instance : Std.Total grantLe where
  total left right := by
    by_cases holder : left.1.1 = right.1.1
    · rcases Std.Total.total (r := bytesLe) left.1.2 right.1.2 with up | down
      · exact .inl (.inr ⟨holder, up⟩)
      · exact .inr (.inr ⟨holder.symm, down⟩)
    · rcases Std.Total.total (r := bytesLe) left.1.1 right.1.1 with up | down
      · exact .inl (.inl ⟨holder, up⟩)
      · exact .inr (.inl ⟨Ne.symm holder, down⟩)

instance : IsTrans ((String × String) × CrossingGrant) grantLe where
  trans left middle right first second := by
    rcases first with ⟨apart, up⟩ | ⟨holder, up⟩ <;> rcases second with ⟨apart', up'⟩ | ⟨holder', up'⟩
    · refine .inl ⟨?_, IsTrans.trans (r := bytesLe) _ _ _ up up'⟩
      intro back
      exact apart (bytesLe_antisymm up (back ▸ up'))
    · exact .inl ⟨holder' ▸ apart, holder' ▸ up⟩
    · exact .inl ⟨holder ▸ apart', holder ▸ up'⟩
    · exact .inr ⟨holder.trans holder', IsTrans.trans (r := bytesLe) _ _ _ up up'⟩

theorem grantLe_antisymm {left right : (String × String) × CrossingGrant} (up : grantLe left right)
    (down : grantLe right left) : left.1 = right.1 := by
  rcases up with ⟨apart, up⟩ | ⟨holder, up⟩ <;> rcases down with ⟨apart', down⟩ | ⟨holder', down⟩
  · exact absurd (bytesLe_antisymm up down) apart
  · exact absurd holder'.symm apart
  · exact absurd holder.symm apart'
  · exact Prod.ext holder (bytesLe_antisymm up down)

theorem crossingKeys_injective :
    Function.Injective fun key : CrossingKey => (key.agent.val, key.assignment.val) := by
  intro x y alike
  rcases x with ⟨⟨_⟩, ⟨_⟩⟩
  rcases y with ⟨⟨_⟩, ⟨_⟩⟩
  cases alike
  rfl

theorem sortGrants_same {m n : VecMap CrossingKey CrossingGrant} (same : m.Same Eq n) :
    (m.entries.map fun e => ((e.1.agent.val, e.1.assignment.val), e.2)).insertionSort grantLe =
      (n.entries.map fun e => ((e.1.agent.val, e.1.assignment.val), e.2)).insertionSort grantLe := by
  have perm := same.map_perm (f := fun key g => ((key.agent.val, key.assignment.val), g))
    (g := fun key g => ((key.agent.val, key.assignment.val), g)) fun key v w related => by rw [related]
  exact insertionSort_of_perm grantLe perm fun x left y right up down =>
    key_apart m crossingKeys_injective id x left y right (grantLe_antisymm up down)

/-- The observed state does not tell the order. -/
theorem fromKernel_same {s t : KernelState} (same : s.Same t) :
    StateN.fromKernel s = StateN.fromKernel t := by
  have agents : Function.Injective AgentId.val := fun _ _ => congrArg AgentId.mk
  have invocations : Function.Injective InvocationId.val := fun _ _ => congrArg InvocationId.mk
  have caps := sortStringMap_same same.agentCap agents fun _ _ => sortByTag_same
  have taints := sortStringMap_same same.taintLevels agents fun _ _ => sortByTag_same
  have integs := sortStringMap_same same.integLevels agents fun _ _ => sortByTag_same
  have pending := sortStringMap_same same.pending invocations fun _ _ => pendingFromKernel_same
  have challenges := sortStringMap_same same.challenges invocations fun _ _ => challengeFromKernel_same
  have parents := sortStringMap_same same.agentParent agents fun _ _ => congrArg AgentId.val
  have grants := sortGrants_same same.crossingGrants
  rw [StateN.fromKernel, StateN.fromKernel, StateN.mk.injEq]
  exact ⟨sortStrings_same same.agentActive _, parents, caps, taints, integs, pending, challenges,
    sortStrings_same same.consumedIds _, sortStrings_same same.consumedAttestations _,
    sortStrings_same same.consumedCrossings _, grants, sortStrings_same same.toolRegistered _⟩

end Observed

section Capacity

theorem VecSet.Same.weigh {T : Type} {s t : VecSet T} (same : s.Same t) (g : T → Nat) :
    s.weigh g = t.weigh g :=
  (same.perm.map g).sum_eq

theorem VecMap.Same.weigh {K V W : Type} [DecidableEq K] {R : V → W → Prop} {m : VecMap K V}
    {n : VecMap K W} (same : m.Same R n) {f : K → V → Nat} {g : K → W → Nat}
    (alike : ∀ key v w, R v w → f key v = g key w) : m.weigh f = n.weigh g :=
  (same.map_perm alike).sum_eq

theorem VecMap.Same.weigh_keys {K V W : Type} [DecidableEq K] {R : V → W → Prop} {m : VecMap K V}
    {n : VecMap K W} (same : m.Same R n) (g : K → Nat) :
    m.weigh (fun key _ => g key) = n.weigh fun key _ => g key :=
  same.weigh fun _ _ _ _ => rfl

theorem pendingTexts_same {j k : PendingInvocation} (same : j.Same k) (inv : InvocationId) :
    pendingTexts inv j = pendingTexts inv k := by
  rw [pendingTexts, pendingTexts, same.agent, same.policy.tool, same.policy.policyDigest, same.admission]

theorem challengeTexts_same {x y : ChallengeScope} (same : x.Same y) (inv : InvocationId) :
    challengeTexts inv x = challengeTexts inv y := by
  rw [challengeTexts, challengeTexts, same.challenge, same.agent, same.policy.tool,
    same.policy.policyDigest, same.argsHash]

variable {s t : KernelState} (same : s.Same t)

include same

theorem weigh_same (f : String → Nat) : s.weigh (Gauge.text f) = t.weigh (Gauge.text f) := by
  simp only [KernelState.weigh, Gauge.text]
  rw [same.agentActive.weigh, same.agentParent.weigh fun _ _ _ related => by rw [related],
    same.agentCap.weigh_keys, same.taintLevels.weigh_keys, same.integLevels.weigh_keys,
    same.pending.weigh fun inv _ _ related => by rw [pendingTexts_same related],
    same.challenges.weigh fun inv _ _ related => by rw [challengeTexts_same related],
    same.consumedIds.weigh, same.consumedAttestations.weigh, same.consumedCrossings.weigh,
    same.crossingGrants.weigh_keys, same.toolRegistered.weigh]

theorem count_same (c : Collection) : c.count s = c.count t := by
  cases c with
  | agentActive => exact same.agentActive.len
  | agentParent => exact same.agentParent.len
  | agentCap => exact same.agentCap.len
  | taintLevels => exact same.taintLevels.len
  | integLevels => exact same.integLevels.len
  | pending => exact same.pending.len
  | challenges => exact same.challenges.len
  | crossingGrants => exact same.crossingGrants.len
  | consumedIds => exact same.consumedIds.len
  | consumedAttestations => exact same.consumedAttestations.len
  | consumedCrossings => exact same.consumedCrossings.len
  | toolRegistered => exact same.toolRegistered.len

theorem checkedStateText_same (fits : StateFits s) : checkedStateText s = checkedStateText t := by
  have fits' : StateFits t := by
    refine ⟨fun c => ?_, ?_, ?_⟩
    · rw [← count_same same]
      exact fits.counts c
    · rw [← weigh_same same]
      exact fits.short
    · rw [← weigh_same same]
      exact fits.total
  have here : checkedStateText s = .ok ⟨s.weigh (Gauge.text String.utf8ByteSize)⟩ :=
    checkedStateText_ok.mpr ⟨fits, rfl⟩
  have there : checkedStateText t = .ok ⟨t.weigh (Gauge.text String.utf8ByteSize)⟩ :=
    checkedStateText_ok.mpr ⟨fits', rfl⟩
  rw [here, there, weigh_same same]

omit same in
theorem checkSetRoom_same {T : Type} [DecidableEq T] {held held' : Option (VecSet T)}
    (related : Option.Rel VecSet.Same held held') (elem : T) (maximum : Nat) :
    checkSetRoom held elem maximum = checkSetRoom held' elem maximum := by
  cases related with
  | none => rfl
  | some sets => simp only [checkSetRoom, sets.len, sets.contains]

omit same in
theorem checkSetMerge_same {T : Type} [DecidableEq T] {source source' receiver receiver' : Option (VecSet T)}
    (sources : Option.Rel VecSet.Same source source')
    (receivers : Option.Rel VecSet.Same receiver receiver') (maximum : Nat) :
    checkSetMerge source receiver maximum = checkSetMerge source' receiver' maximum := by
  cases sources with
  | none =>
    cases receivers with
    | none => rfl
    | some sets => simp only [checkSetMerge, sets.len]
  | some levels =>
    cases receivers with
    | none => simp only [checkSetMerge, (levels.perm.filter _).length_eq]
    | some sets => simp only [checkSetMerge, sets.len, sets.contains, (levels.perm.filter _).length_eq]

omit same in
theorem addLabelKeyIfAbsent_same {V : Type} {R : V → V → Prop} {m n : VecMap AgentId V}
    (keys : m.Same R n) (agent : AgentId) : addLabelKeyIfAbsent m agent = addLabelKeyIfAbsent n agent := by
  rw [addLabelKeyIfAbsent, addLabelKeyIfAbsent, keys.containsKey]

omit same in
theorem checkLabelKey_same {V : Type} {R : V → V → Prop} {m n : VecMap AgentId V} (keys : m.Same R n)
    (agent : AgentId) : checkLabelKey m agent = checkLabelKey n agent := by
  rw [checkLabelKey, checkLabelKey, keys.len, addLabelKeyIfAbsent_same keys]

theorem checkCrossPost_same (input : CrossInputN) (text : TextBudget) :
    checkCrossPost s input text = checkCrossPost t input text := by
  simp only [checkCrossPost, same.consumedCrossings.len, same.consumedAttestations.len,
    checkLabelKey_same same.taintLevels, checkLabelKey_same same.integLevels,
    checkSetMerge_same (same.taintLevels _) (same.taintLevels _),
    checkSetMerge_same (same.integLevels _) (same.integLevels _)]

theorem checkPostTransition_begin {agent inv challenge argsHash : String}
    {policy policy' : ActionPolicySnapshotN} {egress egress' : List EgressKind} {authorized : Bool}
    (policies : policy.Same policy') (text : TextBudget) :
    checkPostTransition s (.beginInvocation agent inv challenge policy egress argsHash authorized) text =
      checkPostTransition t (.beginInvocation agent inv challenge policy' egress' argsHash authorized)
        text := by
  simp only [checkPostTransition, same.pending.len, same.challenges.len, same.consumedIds.len,
    policies.tool, policies.policyDigest]

/-- The estimate of a transition does not tell the order. -/
theorem checkPostTransition_same {c d : CommandN} (commands : c.Same d) (text : TextBudget) :
    checkPostTransition s c text = checkPostTransition t d text := by
  cases commands with
  | begin policies channels => exact checkPostTransition_begin same policies text
  | refl =>
    cases c with
    | registerTool tool => simp only [checkPostTransition, same.toolRegistered.len]
    | unregisterTool tool => rfl
    | delegate grantor grantee =>
      simp only [checkPostTransition, same.agentActive.len, same.agentParent.len]
    | grantCapability parent child cap =>
      have keys := same.agentCap.containsKey ⟨child⟩
      rw [VecMap.containsKey_eq, VecMap.containsKey_eq] at keys
      simp only [checkPostTransition, checkLabelKey_same same.agentCap,
        checkSetRoom_same (same.agentCap _), ← Option.not_isSome, keys]
    | grantCrossing grantor agent assignment n => simp only [checkPostTransition, same.crossingGrants.len]
    | revoke parent target => rfl
    | cascadeRevoke child parent => rfl
    | ingest agent src pconf pinteg =>
      simp only [checkPostTransition, addLabelKeyIfAbsent_same same.taintLevels,
        addLabelKeyIfAbsent_same same.integLevels, same.taintLevels.len, same.integLevels.len,
        checkSetRoom_same (same.taintLevels _), checkSetRoom_same (same.integLevels _)]
    | beginInvocation agent inv challenge policy egress argsHash authorized =>
      simp only [checkPostTransition, same.pending.len, same.challenges.len, same.consumedIds.len]
    | authorizeInspected inv attestation =>
      have held := same.challenges ⟨inv⟩
      simp only [checkPostTransition, same.pending.len, same.consumedAttestations.len]
      generalize s.challenges.get ⟨inv⟩ = here, t.challenges.get ⟨inv⟩ = there at held
      cases held with
      | none => rfl
      | some scopes => simp only [scopes.agent, scopes.policy.tool, scopes.policy.policyDigest]
    | settleInvocation inv outcome resolution =>
      have held := same.pending ⟨inv⟩
      simp only [checkPostTransition, same.consumedAttestations.len]
      generalize s.pending.get ⟨inv⟩ = here, t.pending.get ⟨inv⟩ = there at held
      cases held with
      | none => rfl
      | some records =>
        simp only [records.agent, checkLabelKey_same same.taintLevels, checkLabelKey_same same.integLevels]
    | crossOutput input => exact checkCrossPost_same same input text

end Capacity

section Instances

variable {sha256 : List UInt8 → DigestN}

/-- Both lists of a set are short enough, so neither is refused. -/
theorem checkCommand_same {c d : CommandN} (commands : c.Same d) (fits : c.SetsFit) (fits' : d.SetsFit) :
    checkCommand c = checkCommand d := by
  cases commands with
  | refl => rfl
  | @begin _ _ _ _ policy policy' egress egress' _ policies channels =>
    obtain ⟨caps, declared, attested⟩ := fits
    obtain ⟨caps', declared', attested'⟩ := fits'
    have within : ∀ {held maximum : Nat}, held ≤ maximum → checkLen held maximum = .ok () :=
      fun below => checkLen_ok.mpr below
    have policyOk : checkPolicy policy = checkPolicy policy' := by
      rw [checkPolicy, checkPolicy, within caps, within caps', within declared, within declared']
    simp only [checkCommand, policies.tool, policies.policyDigest, policyOk, within attested,
      within attested']

structure InstanceState.Same (x y : InstanceState) : Prop where
  kernel : x.kernel.Same y.kernel
  sequence : x.sequence = y.sequence
  head : x.head = y.head

/-- Envelopes of commands that differ in order only agree in every other field. -/
structure EnvelopeN.Same (x y : EnvelopeN) : Prop where
  version : x.version = y.version
  sequence : x.sequence = y.sequence
  previousDigest : x.previousDigest = y.previousDigest
  digest : x.digest = y.digest
  command : x.command.Same y.command
  action : x.action = y.action

variable {x y : InstanceState} {c d : CommandN}

theorem preflight_same (same : x.Same y) (sound : Sound x) (commands : c.Same d) (fits : c.SetsFit)
    (fits' : d.SetsFit) : preflight x.kernel x.sequence c = preflight y.kernel y.sequence d := by
  simp only [preflight, same.sequence, checkedStateText_same same.kernel sound.fits,
    checkCommand_same commands fits fits', checkPostTransition_same same.kernel commands]

theorem CommandN.apply_same {s t : KernelState} (same : s.Same t) (commands : c.Same d)
    (theory : BackgroundTheory) :
    Alike (fun u v : KernelState × ActionN => u.1.Same v.1 ∧ u.2 = v.2) (c.apply s theory)
      (d.apply t theory) :=
  (KernelCommand.apply_same same commands.intoKernel).map fun _ _ related =>
    ⟨related.1, congrArg ActionN.fromKernel related.2⟩

variable (sha256) in
theorem applyWithoutCommit_same (same : x.Same y) (sound : Sound x) (commands : c.Same d)
    (fits : c.SetsFit) (fits' : d.SetsFit) (theory : BackgroundTheory) :
    Alike (fun u v : Applied => u.next.Same v.next ∧ u.envelope.Same v.envelope)
      (applyWithoutCommit sha256 x theory c) (applyWithoutCommit sha256 y theory d) := by
  unfold applyWithoutCommit
  refine (Alike.of_eq (preflight_same same sound commands fits fits')).bind fun _ _ _ => ?_
  refine (Alike.of_eq (congrArg checkedSucc same.sequence)).bind fun sequence sequence' number => ?_
  refine ((CommandN.apply_same same.kernel commands theory).mapError).bind fun u v related => ?_
  subst number
  have digest : link sha256 x.head sequence c u.2 = link sha256 y.head sequence d v.2 := by
    rw [link, link, linkTranscript, linkTranscript, same.head, commands.written, related.2]
  exact .ok ⟨⟨related.1, rfl, digest⟩, ⟨rfl, rfl, same.head, digest, commands, related.2⟩⟩

theorem serve_same (theory : BackgroundTheory) (same : x.Same y) (sound : Sound x)
    {commands commands' : List CommandN} (related : List.Forall₂ CommandN.Same commands commands')
    (fits : ∀ command ∈ commands, command.SetsFit) (fits' : ∀ command ∈ commands', command.SetsFit) :
    let served := (LiveInstance.mk theory x).serve sha256 commands
    let served' := (LiveInstance.mk theory y).serve sha256 commands'
    served.1.inner.Same served'.1.inner ∧ List.Forall₂ (Alike EnvelopeN.Same) served.2 served'.2 := by
  induction related generalizing x y with
  | nil => exact ⟨same, .nil⟩
  | @cons c d commands commands' first _ ih =>
    have rest := List.forall_mem_cons.mp fits
    have rest' := List.forall_mem_cons.mp fits'
    have applied := applyWithoutCommit_same sha256 same sound first rest.1 rest'.1 theory
    simp only [LiveInstance.serve, LiveInstance.apply]
    cases here : applyWithoutCommit sha256 x theory c with
    | error e =>
      cases there : applyWithoutCommit sha256 y theory d with
      | error e' =>
        rw [here, there] at applied
        cases applied
        obtain ⟨states, answers⟩ := ih same sound rest.2 rest'.2
        exact ⟨states, .cons (.error e) answers⟩
      | ok v =>
        rw [here, there] at applied
        cases applied
    | ok u =>
      cases there : applyWithoutCommit sha256 y theory d with
      | error e =>
        rw [here, there] at applied
        cases applied
      | ok v =>
        rw [here, there] at applied
        cases applied with
        | ok together =>
          have next : Sound u.next := sound.of_derived here
          obtain ⟨states, answers⟩ := ih together.1 next rest.2 rest'.2
          exact ⟨states, .cons (.ok together.2) answers⟩

end Instances

variable (sha256 : List UInt8 → DigestN) (background : BackgroundN)

theorem initial_same : (InstanceState.initial sha256 background).Same
    (InstanceState.initial sha256 background) := ⟨.refl _, rfl, rfl⟩

/-- The order of set members is never observable: two histories that differ in it only are answered
    alike, and leave alike observed instances behind after every command. -/
theorem order_unobservable (commands commands' : List CommandN)
    (related : List.Forall₂ CommandN.Same commands commands')
    (fits : ∀ command ∈ commands, command.SetsFit) (fits' : ∀ command ∈ commands', command.SetsFit) :
    List.Forall₂ (Alike EnvelopeN.Same)
      ((LiveInstance.new sha256 background).serve sha256 commands).2
      ((LiveInstance.new sha256 background).serve sha256 commands').2 ∧
    ∀ n,
      let live := ((LiveInstance.new sha256 background).serve sha256 (commands.take n)).1
      let live' := ((LiveInstance.new sha256 background).serve sha256 (commands'.take n)).1
      live.status = live'.status ∧ live.state = live'.state ∧
        StateN.fromKernel live.inner.kernel = StateN.fromKernel live'.inner.kernel := by
  have start := initial_same sha256 background
  have sound : Sound (InstanceState.initial sha256 background) := serve_sound sha256 background []
  refine ⟨(serve_same background.intoKernel start sound related fits fits').2, fun n => ?_⟩
  intro live live'
  have states : live.inner.Same live'.inner :=
    (serve_same background.intoKernel start sound (List.forall₂_take n related)
      (fun command member => fits command (List.mem_of_mem_take member))
      fun command member => fits' command (List.mem_of_mem_take member)).1
  have observed := fromKernel_same states.kernel
  have checked : ∀ served : List CommandN,
      checkState ((LiveInstance.new sha256 background).serve sha256 served).1.inner.kernel = .ok () :=
    fun served => checkState_ok.mpr (serve_sound sha256 background served).fits
  refine ⟨?_, ?_, observed⟩
  · rw [LiveInstance.status, LiveInstance.status, states.sequence, states.head]
  · rw [LiveInstance.state, LiveInstance.state, checked, checked, observed]

theorem order_unobservable_sample :
    let zero : List UInt8 → DigestN := fun _ => ⟨Vector.replicate 32 0⟩
    let background : BackgroundN := ⟨.monitor, fun _ => none, fun _ => none⟩
    let policy : ActionPolicySnapshotN := ⟨"t", [.ipc, .clipboard, .ipc], .restricted, .untrusted,
      .untrusted, .«public», .attested, [.ipc, .networkInternal], "d"⟩
    let policy' : ActionPolicySnapshotN :=
      { policy with requiredCaps := [.clipboard, .ipc], declaredEgress := [.networkInternal, .ipc] }
    let front : List CommandN := [.registerTool "t", .delegate "root" "w"]
    let commands := front ++ [.beginInvocation "w" "i" "c" policy [.ipc, .networkInternal] "h" true]
    let commands' := front ++ [.beginInvocation "w" "i" "c" policy' [.networkInternal, .ipc, .ipc] "h" true]
    let live := ((LiveInstance.new zero background).serve zero (commands.take 3)).1
    let live' := ((LiveInstance.new zero background).serve zero (commands'.take 3)).1
    commands ≠ commands' ∧ live.inner.sequence = 3 ∧ live.inner.kernel ≠ live'.inner.kernel ∧
      StateN.fromKernel live.inner.kernel = StateN.fromKernel live'.inner.kernel := by
  intro zero background policy policy' front commands commands' live live'
  have policies : policy.Same policy' :=
    ⟨rfl, by intro cap; cases cap <;> decide, rfl, rfl, rfl, rfl, rfl, by intro e; cases e <;> decide, rfl⟩
  have related : List.Forall₂ CommandN.Same commands commands' :=
    .cons (.refl _) (.cons (.refl _) (.cons (.begin policies (by intro e; cases e <;> decide)) .nil))
  have fits : (∀ command ∈ commands, command.SetsFit) ∧ ∀ command ∈ commands', command.SetsFit := by
    simp [commands, commands', front, policy, policy', CommandN.SetsFit, maxCapabilities, maxEgressKinds]
  refine ⟨by decide, by decide, by decide, ?_⟩
  exact ((order_unobservable zero background commands commands' related fits.1 fits.2).2 3).2.2

end Argus
