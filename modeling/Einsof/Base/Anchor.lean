import Mathlib.Data.List.Forall2
import Mathlib.Data.List.Induction

/-! Chains in which every entry is hashed together with the digest before it. -/

namespace HashChain

variable {τ δ ε : Type*} (hash : τ → δ) (text : δ → ε → τ)

def head (start : δ) (entries : List ε) : δ :=
  entries.foldl (fun digest entry => hash (text digest entry)) start

/-- The texts hashed along the way. -/
def texts (start : δ) : List ε → List τ
  | [] => []
  | entry :: entries => text start entry :: texts (hash (text start entry)) entries

@[simp] theorem head_nil (start : δ) : head hash text start [] = start := rfl

@[simp] theorem head_cons (start : δ) (entry : ε) (entries : List ε) :
    head hash text start (entry :: entries) = head hash text (hash (text start entry)) entries := rfl

@[simp] theorem head_snoc (start : δ) (entries : List ε) (entry : ε) :
    head hash text start (entries ++ [entry]) = hash (text (head hash text start entries) entry) := by
  simp [head]

theorem texts_snoc (start : δ) (entries : List ε) (entry : ε) :
    texts hash text start (entries ++ [entry]) =
      texts hash text start entries ++ [text (head hash text start entries) entry] := by
  induction entries generalizing start with
  | nil => rfl
  | cons first entries ih =>
    simp only [List.cons_append, texts, ih, head_cons]

/-- The hash tells the listed texts apart. -/
def Separates (listed : List τ) : Prop := ∀ a ∈ listed, ∀ b ∈ listed, hash a = hash b → a = b

variable {hash text} {R : ε → ε → Prop} {good : ε → Prop} {genesis genesis' : τ}

theorem Separates.mono {listed fewer : List τ} (separates : Separates hash listed)
    (within : ∀ a ∈ fewer, a ∈ listed) : Separates hash fewer :=
  fun a left b right => separates a (within a left) b (within b right)

/-- Where an entry's text can be read in one way only and no genesis reads as an entry, equal heads have
    equal histories behind them. -/
theorem pinned (reads : ∀ digest digest' entry entry', good entry → good entry' →
      text digest entry = text digest' entry' → digest = digest' ∧ R entry entry')
    (apart : ∀ digest entry, genesis ≠ text digest entry)
    (apart' : ∀ digest entry, genesis' ≠ text digest entry) {entries entries' : List ε}
    (allGood : ∀ entry ∈ entries, good entry) (allGood' : ∀ entry ∈ entries', good entry)
    (separates : Separates hash (genesis :: texts hash text (hash genesis) entries ++
      genesis' :: texts hash text (hash genesis') entries'))
    (same : head hash text (hash genesis) entries = head hash text (hash genesis') entries') :
    genesis = genesis' ∧ List.Forall₂ R entries entries' := by
  induction entries using List.reverseRecOn generalizing entries' with
  | nil =>
    rcases List.eq_nil_or_concat entries' with none | ⟨front, last, here⟩
    · subst none
      exact ⟨separates _ (by simp) _ (by simp) same, .nil⟩
    · rw [List.concat_eq_append] at here
      subst here
      rw [head_nil, head_snoc] at same
      exact absurd (separates _ (by simp) _ (by simp [texts_snoc]) same) (apart _ _)
  | append_singleton entries entry ih =>
    rcases List.eq_nil_or_concat entries' with none | ⟨front, last, here⟩
    · subst none
      rw [head_nil, head_snoc] at same
      exact absurd (separates _ (by simp) _ (by simp [texts_snoc]) same.symm) (apart' _ _)
    · rw [List.concat_eq_append] at here
      subst here
      rw [head_snoc, head_snoc] at same
      have alike := separates _ (by simp [texts_snoc]) _ (by simp [texts_snoc]) same
      obtain ⟨digests, related⟩ := reads _ _ _ _ (allGood entry (by simp)) (allGood' last (by simp)) alike
      obtain ⟨start, earlier⟩ := ih (fun e member => allGood e (by simp [member]))
        (fun e member => allGood' e (by simp [member]))
        (separates.mono fun a member => by simp [texts_snoc] at member ⊢; tauto) digests
      exact ⟨start, List.rel_append earlier (.cons related .nil)⟩

end HashChain
