import Mathlib.Data.Finset.Card
import Mathlib.Logic.Relation
import Mathlib.Tactic.Common

namespace Lineage

variable {α : Type*} {parent parent' : α → Option α} {rank : α → Nat} {a b : α}

def Edge (parent : α → Option α) (child above : α) : Prop := parent child = some above

def Ancestor (parent : α → Option α) (a above : α) : Prop := Relation.TransGen (Edge parent) a above

/-- A rank that falls along every edge; having one is what makes a lineage acyclic. -/
def Ranked (parent : α → Option α) (rank : α → Nat) : Prop :=
  ∀ a b, parent a = some b → rank b < rank a

def climb (parent : α → Option α) : Nat → α → Option α
  | 0, a => some a
  | n + 1, a => (parent a).bind (climb parent n)

theorem Ranked.ancestor (ranked : Ranked parent rank) (above : Ancestor parent a b) :
    rank b < rank a := by
  induction above with
  | single edge => exact ranked _ _ edge
  | tail _ edge ih => exact (ranked _ _ edge).trans ih

theorem Ranked.irrefl (ranked : Ranked parent rank) (a : α) : ¬ Ancestor parent a a := by
  intro self
  have falls := ranked.ancestor self
  omega

theorem Ranked.mono (ranked : Ranked parent rank)
    (fewer : ∀ a b, parent' a = some b → parent a = some b) : Ranked parent' rank := by
  intro a b edge
  exact ranked a b (fewer a b edge)

/-- Hanging a leaf that parents nobody below someone else keeps a lineage acyclic. -/
theorem Ranked.graft [DecidableEq α] {leaf above : α} (ranked : Ranked parent rank)
    (childless : ∀ c, parent c ≠ some leaf) (other : above ≠ leaf)
    (edges : ∀ c, parent' c = if c = leaf then some above else parent c) :
    Ranked parent' (Function.update rank leaf (rank above + 1)) := by
  intro c p edge
  rw [edges] at edge
  by_cases here : c = leaf
  · rw [if_pos here, Option.some.injEq] at edge
    rw [here, ← edge, Function.update_self, Function.update_of_ne other]
    omega
  · rw [if_neg here] at edge
    have spared : p ≠ leaf := fun same => childless c (same ▸ edge)
    rw [Function.update_of_ne here, Function.update_of_ne spared]
    exact ranked c p edge

theorem Ranked.climb_stops (ranked : Ranked parent rank) {keys : Finset α}
    (support : ∀ a b, parent a = some b → a ∈ keys) (a : α) :
    ∃ n ≤ keys.card, ∃ last, climb parent n a = some last ∧ parent last = none := by
  have bounded : ∃ n ≤ (keys.filter (fun x => rank x ≤ rank a)).card, ∃ last,
      climb parent n a = some last ∧ parent last = none := by
    -- each step up leaves the elements of higher rank behind for good
    generalize level : rank a = k
    induction k using Nat.strong_induction_on generalizing a with
    | _ k ih =>
      subst level
      cases up : parent a with
      | none => exact ⟨0, Nat.zero_le _, a, rfl, up⟩
      | some p =>
        have falls := ranked a p up
        obtain ⟨n, few, last, climbed, stops⟩ := ih (rank p) falls p rfl
        have fewer : (keys.filter (fun x => rank x ≤ rank p)).card <
            (keys.filter (fun x => rank x ≤ rank a)).card := by
          apply Finset.card_lt_card
          rw [Finset.ssubset_iff_of_subset]
          · refine ⟨a, Finset.mem_filter.mpr ⟨support a p up, le_refl _⟩, ?_⟩
            intro low
            have below := (Finset.mem_filter.mp low).2
            omega
          · intro x low
            rw [Finset.mem_filter] at low ⊢
            exact ⟨low.1, by omega⟩
        refine ⟨n + 1, by omega, last, ?_, stops⟩
        rw [climb, up, Option.bind_some, climbed]
  obtain ⟨n, few, last, climbed, stops⟩ := bounded
  exact ⟨n, few.trans (Finset.card_filter_le _ _), last, climbed, stops⟩

/-- The elements felled so far, latest first: the target, and any that lost its parent. -/
inductive Felled (parent : α → Option α) (target : α) : List α → Prop
  | target : Felled parent target [target]
  | next {gone : List α} {child above : α} (before : Felled parent target gone)
      (edge : parent child = some above) (orphan : above ∈ gone) (standing : child ∉ gone) :
      Felled parent target (child :: gone)

def Spent (parent : α → Option α) (gone : List α) : Prop :=
  ∀ child above, parent child = some above → above ∈ gone → child ∈ gone

variable {target : α} {gone gone' : List α}

theorem Felled.nodup (felled : Felled parent target gone) : gone.Nodup := by
  induction felled with
  | target => exact List.nodup_singleton target
  | next _ _ _ standing ih => exact List.nodup_cons.mpr ⟨standing, ih⟩

theorem Felled.target_mem (felled : Felled parent target gone) : target ∈ gone := by
  induction felled with
  | target => exact List.mem_singleton_self target
  | next _ _ _ _ ih => exact List.mem_cons_of_mem _ ih

theorem Felled.mem_below (felled : Felled parent target gone) {d : α} (member : d ∈ gone) :
    d = target ∨ Ancestor parent d target := by
  induction felled generalizing d with
  | target => exact .inl (List.mem_singleton.mp member)
  | next _ edge orphan _ ih =>
    rcases List.mem_cons.mp member with rfl | earlier
    · rcases ih orphan with rfl | above
      · exact .inr (.single edge)
      · exact .inr (.head edge above)
    · exact ih earlier

/-- While a descendant of the target stands, some element with a felled parent does. -/
theorem Felled.progress (felled : Felled parent target gone) {d : α} (below : Ancestor parent d target)
    (standing : d ∉ gone) : ∃ child above, parent child = some above ∧ above ∈ gone ∧ child ∉ gone := by
  induction below using Relation.TransGen.head_induction_on with
  | single edge => exact ⟨_, target, edge, felled.target_mem, standing⟩
  | @head d above edge _ ih =>
    by_cases orphan : above ∈ gone
    · exact ⟨d, above, edge, orphan, standing⟩
    · exact ih orphan

theorem Felled.exact (felled : Felled parent target gone) (spent : Spent parent gone) {d : α} :
    d ∈ gone ↔ d = target ∨ Ancestor parent d target := by
  constructor
  · exact felled.mem_below
  · intro below
    by_contra standing
    rcases below with rfl | below
    · exact standing felled.target_mem
    · obtain ⟨child, above, edge, orphan, upright⟩ := felled.progress below standing
      exact upright (spent child above edge orphan)

theorem Felled.perm (felled : Felled parent target gone) (felled' : Felled parent target gone')
    (spent : Spent parent gone) (spent' : Spent parent gone') : gone.Perm gone' := by
  rw [List.perm_ext_iff_of_nodup felled.nodup felled'.nodup]
  intro d
  rw [felled.exact spent, felled'.exact spent']

end Lineage
