import Mathlib.Data.List.Basic
import Mathlib.Tactic.Common

/-! Journals of numbered entries, in which an entry that was never committed leaves its number to the
    next one. -/

namespace Journal

variable {α : Type*} {journal : List (Nat × α)} {committed committed' : List α} {a : α}

/-- The entries written under one number, oldest first. -/
def under (journal : List (Nat × α)) (n : Nat) : List α :=
  (journal.filter (·.1 = n)).map Prod.snd

/-- The last entry under each number in use is the committed one, and only the next number may carry
    entries besides. -/
structure Covers (journal : List (Nat × α)) (committed : List α) : Prop where
  last : ∀ n, n < committed.length → (under journal (n + 1)).getLast? = committed[n]?
  numbered : ∀ entry ∈ journal, 0 < entry.1 ∧ entry.1 ≤ committed.length + 1

theorem under_append (journal : List (Nat × α)) (m n : Nat) (a : α) :
    under (journal ++ [(m, a)]) n = under journal n ++ if m = n then [a] else [] := by
  by_cases same : m = n <;> simp [under, List.filter_append, same]

/-- Nothing is written under the numbers after the next one. -/
theorem Covers.under_later (covers : Covers journal committed) {n : Nat} (later : committed.length + 1 < n) :
    under journal n = [] := by
  rw [under, List.map_eq_nil_iff, List.filter_eq_nil_iff]
  intro entry member
  have bound := (covers.numbered entry member).2
  simp only [decide_eq_true_eq]
  omega

theorem Covers.nil : Covers ([] : List (Nat × α)) [] := ⟨nofun, nofun⟩

/-- An entry written and not committed. -/
theorem Covers.tear (covers : Covers journal committed) :
    Covers (journal ++ [(committed.length + 1, a)]) committed where
  last n below := by
    rw [under_append, if_neg (by omega), List.append_nil]
    exact covers.last n below
  numbered entry member := by
    rcases List.mem_append.mp member with earlier | new
    · exact covers.numbered entry earlier
    · rw [List.mem_singleton.mp new]
      exact ⟨Nat.succ_pos _, Nat.le_refl _⟩

theorem Covers.commit (covers : Covers journal committed) :
    Covers (journal ++ [(committed.length + 1, a)]) (committed ++ [a]) where
  last n below := by
    rw [under_append]
    by_cases newest : n = committed.length
    · subst newest
      simp
    · have earlier : n < committed.length := by
        rw [List.length_append, List.length_singleton] at below
        omega
      rw [if_neg (by omega), List.append_nil, List.getElem?_append_left earlier]
      exact covers.last n earlier
  numbered entry member := by
    rw [List.length_append, List.length_singleton]
    rcases List.mem_append.mp member with earlier | new
    · have numbered := covers.numbered entry earlier
      omega
    · rw [List.mem_singleton.mp new]
      exact ⟨Nat.succ_pos _, Nat.le_succ _⟩

end Journal
