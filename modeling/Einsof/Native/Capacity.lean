import Einsof.Base.Fallible
import Einsof.Kernel.Growth
import Einsof.Native.Instance

namespace Argus

open Fallible

theorem checkedCapacity_ok {current addition maximum total : Nat} :
    checkedCapacity current addition maximum = .ok total ↔
      current + addition ≤ maximum ∧ total = current + addition := by
  unfold checkedCapacity
  by_cases fits : current + addition ≤ maximum <;> simp [fits, eq_comm]

theorem checkLen_ok {current maximum : Nat} {u : Unit} :
    checkLen current maximum = .ok u ↔ current ≤ maximum := by
  unfold checkLen checkedCapacity
  by_cases fits : current ≤ maximum <;> simp [fits, Except.map]

theorem checkAll_ok {values : List String} {u : Unit} :
    checkAll values = .ok u ↔ ∀ value ∈ values, value.utf8ByteSize ≤ maxOpaqueUtf8Bytes := by
  simp only [checkAll, forM_ok, checkLen_ok]

/-- One for a string that is longer than any string may be. -/
def overlong (value : String) : Nat := if value.utf8ByteSize ≤ maxOpaqueUtf8Bytes then 0 else 1

theorem overlong_eq_zero {value : String} : overlong value = 0 ↔ value.utf8ByteSize ≤ maxOpaqueUtf8Bytes := by
  unfold overlong
  split <;> simp [*]

namespace TextBudget

variable {text text' : TextBudget}

theorem add_ok {value : String} : text.add value = .ok text' ↔
    overlong value = 0 ∧ text'.total = text.total + value.utf8ByteSize ∧
      text'.total ≤ maxRetainedUtf8Bytes := by
  simp only [add, bind_ok, checkLen_ok, checkedCapacity_ok, pure_ok, overlong_eq_zero, exists_const]
  constructor
  · intro facts
    rcases facts with ⟨short, total, ⟨fits, rfl⟩, rfl⟩
    exact ⟨short, rfl, fits⟩
  · intro facts
    rcases facts with ⟨short, total, fits⟩
    exact ⟨short, _, ⟨total ▸ fits, rfl⟩, by cases text'; simp_all⟩

theorem addAll_ok {values : List String} (bounded : text.total ≤ maxRetainedUtf8Bytes) :
    text.addAll values = .ok text' ↔
      (values.map overlong).sum = 0 ∧ text'.total = text.total + (values.map String.utf8ByteSize).sum ∧
        text'.total ≤ maxRetainedUtf8Bytes := by
  induction values generalizing text with
  | nil =>
    cases text; cases text'
    simp only [addAll, List.foldlM_nil, pure_ok, TextBudget.mk.injEq, List.map_nil, List.sum_nil,
      true_and, Nat.add_zero]
    constructor
    · intro same
      subst same
      exact ⟨rfl, bounded⟩
    · intro facts
      rcases facts with ⟨rfl, -⟩
      rfl
  | cons value values ih =>
    have step : text.addAll (value :: values) = text.add value >>= (·.addAll values) := List.foldlM_cons ..
    rw [step, bind_ok]
    simp only [add_ok, List.map_cons, List.sum_cons, Nat.add_eq_zero_iff]
    constructor
    · intro facts
      rcases facts with ⟨middle, ⟨short, total, fits⟩, rest⟩
      obtain ⟨shorts, total', fits'⟩ := (ih fits).mp rest
      exact ⟨⟨short, shorts⟩, by omega, fits'⟩
    · intro facts
      rcases facts with ⟨⟨short, shorts⟩, total, fits⟩
      have room : text.total + value.utf8ByteSize ≤ maxRetainedUtf8Bytes := by omega
      exact ⟨⟨text.total + value.utf8ByteSize⟩, ⟨short, rfl, room⟩,
        (ih room).mpr ⟨shorts, by simp only; omega, fits⟩⟩

theorem addAll_append (text : TextBudget) (xs ys : List String) :
    text.addAll (xs ++ ys) = text.addAll xs >>= (·.addAll ys) := List.foldlM_append

theorem addAll_nil (text : TextBudget) : text.addAll [] = pure text := rfl

theorem add_eq_addAll (text : TextBudget) (value : String) : text.add value = text.addAll [value] := by
  simp [addAll]

theorem addAll_trans {middle : TextBudget} {xs ys : List String} (first : text.addAll xs = .ok middle)
    (second : middle.addAll ys = .ok text') : text.addAll (xs ++ ys) = .ok text' := by
  rw [addAll_append, bind_ok]
  exact ⟨middle, first, second⟩

end TextBudget

inductive Collection
  | agentActive
  | agentParent
  | agentCap
  | taintLevels
  | integLevels
  | pending
  | challenges
  | crossingGrants
  | consumedIds
  | consumedAttestations
  | consumedCrossings
  | toolRegistered

namespace Collection

def limit : Collection → Nat
  | agentActive => maxAgents
  | agentParent | agentCap | taintLevels | integLevels => maxParentOrLabelKeys
  | pending => maxPending
  | challenges => maxChallenges
  | crossingGrants => maxCrossingGrants
  | consumedIds => maxConsumedIds
  | consumedAttestations => maxConsumedAttestations
  | consumedCrossings => maxConsumedCrossings
  | toolRegistered => maxTools

def count (s : KernelState) : Collection → Nat
  | agentActive => s.agentActive.len
  | agentParent => s.agentParent.len
  | agentCap => s.agentCap.len
  | taintLevels => s.taintLevels.len
  | integLevels => s.integLevels.len
  | pending => s.pending.len
  | challenges => s.challenges.len
  | crossingGrants => s.crossingGrants.len
  | consumedIds => s.consumedIds.len
  | consumedAttestations => s.consumedAttestations.len
  | consumedCrossings => s.consumedCrossings.len
  | toolRegistered => s.toolRegistered.len

end Collection

namespace Gauge

def zero : Gauge where
  active _ := 0
  parent _ _ := 0
  cap _ := 0
  taint _ := 0
  integ _ := 0
  pending _ _ := 0
  challenge _ _ := 0
  id _ := 0
  attestation _ := 0
  crossing _ := 0
  grant _ := 0
  tool _ := 0
  standing _ _ _ _ := rfl

def count : Collection → Gauge
  | .agentActive => { zero with active := fun _ => 1 }
  | .agentParent => { zero with parent := fun _ _ => 1 }
  | .agentCap => { zero with cap := fun _ => 1 }
  | .taintLevels => { zero with taint := fun _ => 1 }
  | .integLevels => { zero with integ := fun _ => 1 }
  | .pending => { zero with pending := fun _ _ => 1, standing := fun _ _ _ _ => rfl }
  | .challenges => { zero with challenge := fun _ _ => 1 }
  | .crossingGrants => { zero with grant := fun _ => 1 }
  | .consumedIds => { zero with id := fun _ => 1 }
  | .consumedAttestations => { zero with attestation := fun _ => 1 }
  | .consumedCrossings => { zero with crossing := fun _ => 1 }
  | .toolRegistered => { zero with tool := fun _ => 1 }

/-- Weighs the strings that each entry retains. -/
def text (f : String → Nat) : Gauge where
  active a := f a.val
  parent c p := f c.val + f p.val
  cap a := f a.val
  taint a := f a.val
  integ a := f a.val
  pending inv j := ((pendingTexts inv j).map f).sum
  challenge inv sc := ((challengeTexts inv sc).map f).sum
  id inv := f inv.val
  attestation x := f x.val
  crossing x := f x.val
  grant key := f key.agent.val + f key.assignment.val
  tool t := f t.val
  standing _ _ _ _ := rfl

end Gauge

theorem KernelState.weigh_count (s : KernelState) (c : Collection) : s.weigh (Gauge.count c) = c.count s := by
  cases c <;> simp [weigh, Gauge.count, Gauge.zero, Collection.count, VecSet.weigh_one, VecMap.weigh_one]

/-- Every collection is within its limit, no string is overlong and the text is within its budget. -/
structure StateFits (s : KernelState) : Prop where
  counts : ∀ c : Collection, c.count s ≤ c.limit
  short : s.weigh (Gauge.text overlong) = 0
  total : s.weigh (Gauge.text String.utf8ByteSize) ≤ maxRetainedUtf8Bytes

theorem CapKind.len_le (caps : VecSet CapKind) : caps.len ≤ maxCapabilities :=
  VecSet.len_le_of_mem CapKind.mem_all caps

theorem EgressKind.len_le (egress : VecSet EgressKind) : egress.len ≤ maxEgressKinds :=
  VecSet.len_le_of_mem EgressKind.mem_all egress

theorem ConfLevel.len_le (levels : VecSet ConfLevel) : levels.len ≤ maxConfLevels :=
  VecSet.len_le_of_mem (fun l => by cases l <;> decide :
    ∀ l, l ∈ [ConfLevel.«public», .«internal», .sensitive, .restricted]) levels

theorem IntegLevel.len_le (levels : VecSet IntegLevel) : levels.len ≤ maxIntegLevels :=
  VecSet.len_le_of_mem (fun l => by cases l <;> decide :
    ∀ l, l ∈ [IntegLevel.untrusted, .standard, .trusted, .attested]) levels

/-- The sets under a key are sets over small enumerations, so only the counts can be refused. -/
theorem checkStateShape_ok {s : KernelState} {u : Unit} :
    checkStateShape s = .ok u ↔ ∀ c : Collection, c.count s ≤ c.limit := by
  simp only [checkStateShape, checkStoredSets, bind_ok, checkLen_ok, forM_ok, exists_const,
    CapKind.len_le, EgressKind.len_le, ConfLevel.len_le, IntegLevel.len_le, implies_true, and_true, and_self]
  constructor
  · intro facts c
    rcases facts with ⟨h₁, h₂, h₃, h₄, h₅, h₆, h₇, h₈, h₉, h₁₀, h₁₁, h₁₂⟩
    cases c <;> assumption
  · intro fits
    exact ⟨fits .agentActive, fits .agentParent, fits .agentCap, fits .taintLevels, fits .integLevels,
      fits .pending, fits .challenges, fits .crossingGrants, fits .consumedIds,
      fits .consumedAttestations, fits .consumedCrossings, fits .toolRegistered⟩

def retainedTexts (s : KernelState) : List String :=
  s.agentActive.items.map (·.val) ++
  ((s.agentParent.entries.flatMap fun (child, parent) => [child.val, parent.val]) ++
  (s.agentCap.entries.map (fun (agent, _) => agent.val) ++
  (s.taintLevels.entries.map (fun (agent, _) => agent.val) ++
  (s.integLevels.entries.map (fun (agent, _) => agent.val) ++
  ((s.pending.entries.flatMap fun (inv, pending) => pendingTexts inv pending) ++
  ((s.challenges.entries.flatMap fun (inv, scope) => challengeTexts inv scope) ++
  (s.consumedIds.items.map (·.val) ++
  (s.consumedAttestations.items.map (·.val) ++
  (s.consumedCrossings.items.map (·.val) ++
  ((s.crossingGrants.entries.flatMap fun (key, _) => [key.agent.val, key.assignment.val]) ++
  s.toolRegistered.items.map (·.val)))))))))))

theorem retainedText_eq (s : KernelState) : retainedText s = TextBudget.new.addAll (retainedTexts s) := by
  simp only [retainedTexts, TextBudget.addAll_append]
  rfl

theorem sum_map_flatMap {α : Type} (f : String → Nat) (texts : α → List String) (xs : List α) :
    ((xs.flatMap texts).map f).sum = (xs.map fun x => ((texts x).map f).sum).sum := by
  induction xs with
  | nil => rfl
  | cons x xs ih => simp [ih]

theorem sum_retainedTexts (f : String → Nat) (s : KernelState) :
    ((retainedTexts s).map f).sum = s.weigh (Gauge.text f) := by
  simp only [retainedTexts, List.map_append, List.sum_append, sum_map_flatMap, List.map_map,
    KernelState.weigh, VecSet.weigh, VecMap.weigh, Gauge.text, Function.comp_def, List.map_cons,
    List.map_nil, List.sum_cons, List.sum_nil, Nat.add_zero]
  omega

theorem checkedStateText_ok {s : KernelState} {text : TextBudget} : checkedStateText s = .ok text ↔
    StateFits s ∧ text.total = s.weigh (Gauge.text String.utf8ByteSize) := by
  have empty : TextBudget.new.total ≤ maxRetainedUtf8Bytes := Nat.zero_le _
  simp only [checkedStateText, bind_ok, checkStateShape_ok, exists_and_right, exists_const,
    retainedText_eq, TextBudget.addAll_ok empty, sum_retainedTexts]
  rw [show TextBudget.new.total = 0 from rfl, Nat.zero_add]
  constructor
  · intro facts
    rcases facts with ⟨counts, short, total, fits⟩
    exact ⟨⟨counts, short, total ▸ fits⟩, total⟩
  · intro facts
    rcases facts with ⟨⟨counts, short, fits⟩, total⟩
    exact ⟨counts, short, total, total ▸ fits⟩

theorem checkState_ok {s : KernelState} {u : Unit} : checkState s = .ok u ↔ StateFits s := by
  simp only [checkState, map_ok, checkedStateText_ok, and_true]
  exact ⟨fun ⟨_, fits, _⟩ => fits, fun fits => ⟨⟨_⟩, fits, rfl⟩⟩

end Argus
