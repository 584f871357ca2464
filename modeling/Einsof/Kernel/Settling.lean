import Einsof.Base.Schedule
import Einsof.Kernel.Closing
import Einsof.Kernel.Order

namespace Argus

/-- The completion of one in-flight invocation. -/
structure Completion where
  inv : InvocationId
  outcome : Outcome
  att : Option ResolutionAttestation

def Completion.command (c : Completion) : KernelCommand :=
  .settleInvocation c.inv c.outcome c.att

/-- Two settlements of different invocations, on different resolutions. -/
inductive Apart : KernelCommand → KernelCommand → Prop
  | intro {c d : Completion} (invs : c.inv ≠ d.inv)
      (atts : ∀ x y, c.att = some x → d.att = some y → x.id ≠ y.id) : Apart c.command d.command

theorem Apart.symm {c d : KernelCommand} (apart : Apart c d) : Apart d c := by
  cases apart with
  | intro invs atts => exact .intro invs.symm fun x y resolves resolves' => (atts y x resolves' resolves).symm

variable {s s' : KernelState} {bg : BackgroundTheory} {inv i : InvocationId} {outcome : Outcome}
  {att : Option ResolutionAttestation} {j k r : PendingInvocation} {a b : AgentId}

section Demotion

variable {p q p' q' : Prop} [Decidable p] [Decidable q] [Decidable p'] [Decidable q']

theorem demotedIf_eq_ite : demotedIf p a r =
    { r with disposition := if p ∧ r.agent = a then .monitorBypassed else r.disposition } := by
  unfold demotedIf KernelState.demoted
  by_cases demotes : p
  · by_cases own : r.agent = a
    · rw [if_pos demotes, if_pos own, if_pos ⟨demotes, own⟩]
    · rw [if_pos demotes, if_neg own, if_neg fun both => own both.2]
  · rw [if_neg demotes, if_neg fun both => demotes both.1]

theorem demotedIf_disposition_ne : (demotedIf p a r).disposition ≠ .permitted ↔
    r.disposition ≠ .permitted ∨ (p ∧ r.agent = a) := by
  rw [demotedIf_eq_ite]
  by_cases demotes : p ∧ r.agent = a <;> simp [demotes]

theorem demotedIf_quarantine :
    { demotedIf p a r with quarantined := true } = demotedIf p a { r with quarantined := true } := by
  rw [demotedIf_eq_ite, demotedIf_eq_ite]

/-- Two demotions, of which either also happens once the other reached its owner. -/
theorem demotedIf_comm (second : q' ↔ q ∨ (p ∧ b = a)) (first : p' ↔ p ∨ (q ∧ a = b)) :
    demotedIf q' b (demotedIf p a r) = demotedIf p' a (demotedIf q b r) := by
  simp only [demotedIf_eq_ite]
  congr 1
  by_cases shared : a = b
  · subst shared
    by_cases demotes : p <;> by_cases demotes' : q <;> by_cases own : r.agent = a <;>
      simp [first, second, demotes, demotes', own]
  · have other : b ≠ a := fun same => shared same.symm
    by_cases own : r.agent = a
    · simp [first, shared, own]
    · simp [second, other, own]

end Demotion

section Answers

theorem settleRefusal_frame {t : KernelState} {i : InvocationId} {o : Outcome} (attestations : ∀ x, att = some x →
    (x.id ∈ t.consumedAttestations ↔ x.id ∈ s.consumedAttestations))
    (clean : k.quarantined = j.quarantined) :
    settleRefusal t i o att k = settleRefusal s i o att j := by
  have valid : resolutionValid t i o att = resolutionValid s i o att := by
    cases att with
    | none => rfl
    | some x =>
      have spent : t.consumedAttestations.contains x.id = s.consumedAttestations.contains x.id := by
        rw [Bool.eq_iff_iff, VecSet.contains_iff, VecSet.contains_iff]
        exact attestations x rfl
      simp only [resolutionValid, spent]
  rw [settleRefusal, settleRefusal, valid, clean]

/-- Settling one invocation does not change how another is answered. -/
theorem settle_keeps_answer (reach : (kernel bg).Reachable s) {c d : Completion}
    (invs : c.inv ≠ d.inv) (atts : ∀ x y, c.att = some x → d.att = some y → x.id ≠ y.id) :
    ((kernel bg).attempt ((kernel bg).attempt s d.command).1 c.command).2 =
      ((kernel bg).attempt s c.command).2 := by
  cases answer : (kernel bg).step s d.command with
  | error e => rw [Machine.attempt_error answer]
  | ok next =>
    have reach' := reach.attempt d.command
    rw [Machine.attempt_ok answer] at reach' ⊢
    obtain ⟨k, -, -, -, -, effect, -⟩ := settleInvocation_ok.mp answer
    have kept : next.1.pending.get c.inv = (s.pending.get c.inv).map
        (demotedIf (k.disposition ≠ .permitted) k.agent) := by
      rw [effect, settled_pending, if_neg invs]
    have attestations : ∀ x, c.att = some x →
        (x.id ∈ next.1.consumedAttestations ↔ x.id ∈ s.consumedAttestations) := by
      intro x resolves
      rw [effect, settled_consumedAttestations]
      refine or_iff_left fun spent => ?_
      obtain ⟨y, resolves', same⟩ := spent
      exact atts x y resolves resolves' same
    cases present : s.pending.get c.inv with
    | none =>
      rw [present, Option.map_none] at kept
      have here : (kernel bg).step s c.command = _ := settle_missing present _ _
      have there : (kernel bg).step next.1 c.command = _ := settle_missing kept _ _
      rw [Machine.attempt_error here, Machine.attempt_error there]
    | some j =>
      rw [present, Option.map_some] at kept
      have refusal := settleRefusal_frame (i := c.inv) (o := c.outcome) attestations
        (demotedIf_quarantined (k.disposition ≠ .permitted) k.agent j)
      have here : (kernel bg).step s c.command = _ := settle_step reach present
      have there : (kernel bg).step next.1 c.command = _ := settle_step reach' kept
      rw [refusal] at there
      cases settled : settleRefusal s c.inv c.outcome c.att j with
      | some e =>
        rw [settled] at here there
        rw [Machine.attempt_error here, Machine.attempt_error there]
      | none =>
        rw [settled] at here there
        rw [Machine.attempt_ok here, Machine.attempt_ok there]

end Answers

section Meeting

variable {o o' : Outcome} {x y : Option ResolutionAttestation} {inv' : InvocationId}

/-- What two settlements leave of a record, but for their demotions. -/
def leftOver (s : KernelState) (inv inv' : InvocationId) (o o' : Outcome) (j k : PendingInvocation)
    (i : InvocationId) : Option PendingInvocation :=
  if i = inv' then if o' = .ambiguous then some { k with quarantined := true } else none
  else if i = inv then if o = .ambiguous then some { j with quarantined := true } else none
  else s.pending.get i

theorem leftOver_comm (invs : inv ≠ inv') :
    leftOver s inv inv' o o' j k i = leftOver s inv' inv o' o k j i := by
  unfold leftOver
  by_cases here : i = inv
  · rw [if_neg (here ▸ invs), if_pos here, if_pos here]
  · rw [if_neg here, if_neg here]

theorem settled_twice_pending :
    (settled (settled s inv o x j) inv' o' y (demotedIf (j.disposition ≠ .permitted) j.agent k)).pending.get i =
      ((leftOver s inv inv' o o' j k i).map (demotedIf (j.disposition ≠ .permitted) j.agent)).map
        (demotedIf ((demotedIf (j.disposition ≠ .permitted) j.agent k).disposition ≠ .permitted)
          (demotedIf (j.disposition ≠ .permitted) j.agent k).agent) := by
  rw [settled_pending, settled_pending]
  refine congrArg _ ?_
  unfold leftOver
  by_cases second : i = inv'
  · rw [if_pos second, if_pos second]
    by_cases ambiguous : o' = .ambiguous
    · rw [if_pos ambiguous, if_pos ambiguous, Option.map_some, demotedIf_quarantine]
    · rw [if_neg ambiguous, if_neg ambiguous, Option.map_none]
  · rw [if_neg second, if_neg second]

theorem settled_pending_comm (invs : inv ≠ inv') :
    (settled (settled s inv o x j) inv' o' y (demotedIf (j.disposition ≠ .permitted) j.agent k)).pending.get i =
      (settled (settled s inv' o' y k) inv o x
        (demotedIf (k.disposition ≠ .permitted) k.agent j)).pending.get i := by
  rw [settled_twice_pending, settled_twice_pending, leftOver_comm invs, demotedIf_agent,
    demotedIf_agent, Option.map_map, Option.map_map]
  refine congrArg (Option.map · _) (funext fun r => ?_)
  exact demotedIf_comm demotedIf_disposition_ne demotedIf_disposition_ne

/-- Two settlements of different records lead to the same state in either order. -/
theorem settled_comm (invs : inv ≠ inv') :
    (settled (settled s inv o x j) inv' o' y (demotedIf (j.disposition ≠ .permitted) j.agent k)).Same
      (settled (settled s inv' o' y k) inv o x (demotedIf (k.disposition ≠ .permitted) k.agent j)) := by
  have pending : (settled (settled s inv o x j) inv' o' y
      (demotedIf (j.disposition ≠ .permitted) j.agent k)).pending.Same PendingInvocation.Same
      (settled (settled s inv' o' y k) inv o x
        (demotedIf (k.disposition ≠ .permitted) k.agent j)).pending := by
    intro i
    rw [settled_pending_comm invs]
    exact VecMap.Same.refl .refl _ i
  have attestations : (settled (settled s inv o x j) inv' o' y
      (demotedIf (j.disposition ≠ .permitted) j.agent k)).consumedAttestations.Same
      (settled (settled s inv' o' y k) inv o x
        (demotedIf (k.disposition ≠ .permitted) k.agent j)).consumedAttestations := by
    intro z
    simp only [settled_consumedAttestations]
    exact or_right_comm
  have same := KernelState.Same.refl s
  simp only [settled_eq, settleAbsorb, demotedIf_agent, demotedIf_policy] at pending attestations ⊢
  exact { same with
    pending := pending
    taintLevels := VecMap.insertInto_if_comm _ _ _ _ _
    integLevels := VecMap.insertInto_if_comm _ _ _ _ _
    consumedAttestations := attestations }

end Meeting

theorem respects_same : (kernel bg).Respects KernelState.Same := by
  intro s t c same
  have alike : Fallible.Alike SameOutcome ((kernel bg).step s c) ((kernel bg).step t c) :=
    KernelCommand.apply_same same (.refl c)
  unfold Machine.attempt
  generalize (kernel bg).step s c = here, (kernel bg).step t c = there at alike
  cases alike with
  | error e => exact ⟨rfl, same⟩
  | ok related => exact ⟨rfl, related.1⟩

/-- The second of two accepted settlements reads its record as the first left it. -/
theorem settle_second {c d : Completion} {action : KernelAction} (invs : d.inv ≠ c.inv)
    (accepted : (kernel bg).step s c.command = .ok (s', action))
    (present : s.pending.get d.inv = some k) (answered : ((kernel bg).attempt s' d.command).2 = none) :
    ∃ j, s.pending.get c.inv = some j ∧ ((kernel bg).attempt s' d.command).1 =
      settled (settled s c.inv c.outcome c.att j) d.inv d.outcome d.att
        (demotedIf (j.disposition ≠ .permitted) j.agent k) := by
  obtain ⟨j, here, -, -, -, rfl, -⟩ := settleInvocation_ok.mp accepted
  obtain ⟨_, accepted'⟩ := Machine.attempt_accepted answered
  obtain ⟨k', there, -, -, -, effect, -⟩ := settleInvocation_ok.mp accepted'
  rw [settled_pending, if_neg invs, present] at there
  cases there
  exact ⟨j, here, effect⟩

theorem settle_commute (reach : (kernel bg).Reachable s) {c d : KernelCommand} (apart : Apart c d) :
    (kernel bg).Commute KernelState.Same c d s := by
  cases apart with
  | @intro c d invs atts =>
    have first := settle_keeps_answer reach invs atts
    have second := settle_keeps_answer reach invs.symm fun x y resolves resolves' =>
      (atts y x resolves' resolves).symm
    refine .of_accepted .refl first second ?_
    intro s₁ r₁ s₂ r₂ accepted accepted'
    rw [Machine.attempt_ok accepted, Machine.attempt_ok accepted'] at first second
    obtain ⟨j, here, -⟩ := settleInvocation_ok.mp accepted
    obtain ⟨k, there, -⟩ := settleInvocation_ok.mp accepted'
    obtain ⟨j', here', after⟩ := settle_second invs.symm accepted there second
    obtain ⟨k', there', after'⟩ := settle_second invs accepted' here first
    cases here.symm.trans here'
    cases there.symm.trans there'
    rw [after, after']
    exact settled_comm invs

/-- The order in which in-flight invocations complete does not matter: every completion is answered
    alike in every order, and all orders lead to the same state. -/
theorem settlement_order (reach : (kernel bg).Reachable s) {cs ds : List Completion}
    (perm : cs.Perm ds) (invs : (cs.map Completion.inv).Nodup)
    (atts : (cs.filterMap fun c => c.att.map (·.id)).Nodup) :
    ((kernel bg).attempts s (cs.map Completion.command)).1.Same
        ((kernel bg).attempts s (ds.map Completion.command)).1 ∧
      ((kernel bg).attempts s (cs.map Completion.command)).2.Perm
        ((kernel bg).attempts s (ds.map Completion.command)).2 := by
  have apart : (cs.map Completion.command).Pairwise Apart := by
    rw [List.pairwise_map]
    have distinct := List.pairwise_map.mp invs
    have unspent := List.pairwise_filterMap.mp atts
    refine (distinct.and unspent).imp ?_
    intro c d both
    refine .intro both.1 fun x y resolves resolves' => ?_
    exact both.2 _ (by rw [resolves]; rfl) _ (by rw [resolves']; rfl)
  exact Machine.attempts_perm (fun _ c reach => reach.attempt c) .refl .trans respects_same .symm
    (fun _ _ _ reach apart => settle_commute reach apart) (perm.map _) apart reach

/-- A permitted and a bypassed call of one worker, in flight together. -/
def concurrentState : KernelState :=
  ((kernel (sampleBackground.setMode .monitor)).drive KernelState.initial (sampleCommands ++
    [.beginInvocation ⟨"worker"⟩ ⟨"unauthorized"⟩ ⟨"challenge"⟩ sampleSnapshot
      (VecSet.fromIter [.networkExternal]) ⟨"args"⟩ false])).1

def sampleCompletions : List Completion :=
  [⟨⟨"call"⟩, .ambiguous, none⟩, ⟨⟨"unauthorized"⟩, .success, none⟩, ⟨⟨"unknown"⟩, .failure, none⟩]

theorem settlement_order_sample :
    ((kernel (sampleBackground.setMode .monitor)).attempts concurrentState
        (sampleCompletions.map Completion.command)).1.Same
      ((kernel (sampleBackground.setMode .monitor)).attempts concurrentState
        (sampleCompletions.reverse.map Completion.command)).1 ∧
    ((kernel (sampleBackground.setMode .monitor)).attempts concurrentState
        (sampleCompletions.map Completion.command)).2.Perm
      ((kernel (sampleBackground.setMode .monitor)).attempts concurrentState
        (sampleCompletions.reverse.map Completion.command)).2 :=
  settlement_order (Machine.drive_reachable _ _) (List.reverse_perm _).symm (by decide) (by decide)

example : ((kernel (sampleBackground.setMode .monitor)).attempts concurrentState
    (sampleCompletions.map Completion.command)).2.map Prod.snd = [none, none, some .notPending] := by
  decide

end Argus
