import Mathlib.Data.List.Induction
import Mathlib.Tactic.Common

namespace Meter

inductive Event
  | provision (n : Nat)
  | reset
  | use
  | skip
  deriving DecidableEq

def Event.provisions : Event → Bool
  | .provision _ => true
  | _ => false

structure Balance where
  provisioned : Nat
  remaining : Nat

def settle : Option Balance → Event → Option Balance
  | _, .provision n => some ⟨n, n⟩
  | _, .reset => none
  | some b, .use => some ⟨b.provisioned, b.remaining - 1⟩
  | none, .use => none
  | b, .skip => b

def balance (es : List Event) : Option Balance := es.foldl settle none

theorem balance_snoc (es : List Event) (e : Event) : balance (es ++ [e]) = settle (balance es) e := by
  rw [balance, List.foldl_append]
  rfl

/-- Every use was funded when it was made. -/
inductive Legal : List Event → Prop
  | nil : Legal []
  | snoc {es : List Event} {e : Event} (legal : Legal es)
      (funded : e = .use → ∃ b, balance es = some b ∧ 0 < b.remaining) : Legal (es ++ [e])

theorem Legal.last {es : List Event} {e : Event} (legal : Legal (es ++ [e])) :
    Legal es ∧ (e = .use → ∃ b, balance es = some b ∧ 0 < b.remaining) := by
  generalize same : es ++ [e] = whole at legal
  cases legal with
  | nil => simp at same
  | snoc legal funded =>
    obtain ⟨rfl, tail⟩ := List.append_inj' same rfl
    cases tail
    exact ⟨legal, funded⟩

theorem Legal.unfunded {before mid : List Event} (empty : balance before = none)
    (legal : Legal (before ++ mid)) (quiet : ∀ e ∈ mid, e.provisions = false) :
    balance (before ++ mid) = none ∧ mid.count .use = 0 := by
  induction mid using List.reverseRecOn with
  | nil => simpa using empty
  | append_singleton mid e ih =>
    rw [← List.append_assoc] at legal
    obtain ⟨earlier, funded⟩ := legal.last
    obtain ⟨still, none⟩ := ih earlier (fun f member => quiet f (List.mem_append_left _ member))
    have last := quiet e (by simp)
    rw [← List.append_assoc, balance_snoc, still, List.count_append, none]
    cases e with
    | provision n => cases last
    | reset => exact ⟨rfl, rfl⟩
    | skip => exact ⟨rfl, rfl⟩
    | use =>
      obtain ⟨b, present, -⟩ := funded rfl
      rw [still] at present
      cases present

/-- From one provisioning to before the next: either the budget lives and nothing is lost, or it was
    reset on the way and no more was used than it held. -/
theorem Legal.segment {before mid : List Event} {n : Nat}
    (legal : Legal (before ++ .provision n :: mid)) (quiet : ∀ e ∈ mid, e.provisions = false) :
    (∃ b, balance (before ++ .provision n :: mid) = some b ∧ b.provisioned = n ∧
      b.remaining + mid.count .use = n ∧ .reset ∉ mid) ∨
    (balance (before ++ .provision n :: mid) = none ∧ mid.count .use ≤ n) := by
  induction mid using List.reverseRecOn with
  | nil =>
    left
    refine ⟨⟨n, n⟩, ?_, rfl, rfl, List.not_mem_nil⟩
    rw [balance_snoc]
    rfl
  | append_singleton mid e ih =>
    have regroup : before ++ .provision n :: (mid ++ [e]) = (before ++ .provision n :: mid) ++ [e] := by simp
    rw [regroup] at legal ⊢
    obtain ⟨earlier, funded⟩ := legal.last
    have last := quiet e (by simp)
    rw [balance_snoc, List.count_append]
    rcases ih earlier (fun f member => quiet f (List.mem_append_left _ member)) with
      ⟨b, present, limit, conserved, kept⟩ | ⟨empty, bounded⟩
    · rw [present] at funded ⊢
      cases e with
      | provision m => cases last
      | reset =>
        right
        refine ⟨rfl, ?_⟩
        simp only [List.count_singleton, beq_iff_eq, reduceCtorEq, if_false]
        omega
      | skip =>
        left
        refine ⟨b, rfl, limit, ?_, by simp [kept]⟩
        simp only [List.count_singleton, beq_iff_eq, reduceCtorEq, if_false]
        omega
      | use =>
        left
        obtain ⟨b', same, positive⟩ := funded rfl
        cases same
        refine ⟨⟨b.provisioned, b.remaining - 1⟩, rfl, limit, ?_, by simp [kept]⟩
        simp only [List.count_singleton, beq_self_eq_true, if_true]
        omega
    · right
      rw [empty] at funded ⊢
      cases e with
      | provision m => cases last
      | reset => exact ⟨rfl, by simpa using bounded⟩
      | skip => exact ⟨rfl, by simpa using bounded⟩
      | use =>
        obtain ⟨b', impossible, -⟩ := funded rfl
        cases impossible

theorem last_provisioning (es : List Event) : (∀ e ∈ es, e.provisions = false) ∨
    ∃ before n after, es = before ++ .provision n :: after ∧ ∀ e ∈ after, e.provisions = false := by
  induction es using List.reverseRecOn with
  | nil => left; simp
  | append_singleton es e ih =>
    cases last : e.provisions with
    | true =>
      cases e with
      | provision n => exact .inr ⟨es, n, [], rfl, by simp⟩
      | reset => cases last
      | use => cases last
      | skip => cases last
    | false =>
      have extended : ∀ {tail : List Event}, (∀ f ∈ tail, f.provisions = false) →
          ∀ f ∈ tail ++ [e], f.provisions = false := by
        intro tail quiet f member
        rcases List.mem_append.mp member with earlier | now
        · exact quiet f earlier
        · rw [List.mem_singleton.mp now, last]
      rcases ih with quiet | ⟨before, n, after, rfl, quiet⟩
      · exact .inl (extended quiet)
      · exact .inr ⟨before, n, after ++ [e], by simp, extended quiet⟩

/-- A live balance stems from its last provisioning, untouched by any reset since, and what remains
    and what was used since add up to it. -/
theorem Legal.conserved {es : List Event} {b : Balance} (legal : Legal es) (live : balance es = some b) :
    ∃ before after, es = before ++ .provision b.provisioned :: after ∧
      (∀ e ∈ after, e.provisions = false ∧ e ≠ .reset) ∧
      b.remaining + after.count .use = b.provisioned := by
  rcases last_provisioning es with quiet | ⟨before, n, after, rfl, quiet⟩
  · have whole : Legal ([] ++ es) := legal
    obtain ⟨empty, -⟩ := whole.unfunded rfl quiet
    rw [List.nil_append, live] at empty
    cases empty
  · rcases legal.segment quiet with ⟨b', present, limit, conserved, kept⟩ | ⟨empty, -⟩
    · cases live.symm.trans present
      subst limit
      exact ⟨before, after, rfl, fun e member => ⟨quiet e member, fun reset => kept (reset ▸ member)⟩,
        conserved⟩
    · rw [live] at empty
      cases empty

end Meter
