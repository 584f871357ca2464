import Mathlib.Logic.Function.Basic
import Mathlib.Tactic.Common

/-! Writers whose output can be read back from the front of a stream in one way only. -/

namespace Codec

variable {α γ δ σ : Type*} {write : α → List σ} {fits : α → Prop} {view : α → γ}

/-- Whatever follows, two values that fit are written alike only when they look alike under `view`, and
    then the same follows them. -/
structure Readable (write : α → List σ) (fits : α → Prop) (view : α → γ) : Prop where
  split {a b : α} (left : fits a) (right : fits b) {rest rest' : List σ}
    (same : write a ++ rest = write b ++ rest') : view a = view b ∧ rest = rest'

theorem Readable.of_prefix (readable : Readable write fits view) {a b : α} (left : fits a)
    (right : fits b) (front : write a <+: write b) : view a = view b := by
  obtain ⟨rest, same⟩ := front
  rw [← List.append_nil (write b)] at same
  exact (readable.split left right same).1

theorem Readable.comap (readable : Readable write fits view) (f : δ → α) :
    Readable (fun d => write (f d)) (fun d => fits (f d)) (fun d => view (f d)) where
  split left right _ _ same := readable.split left right same

/-- The same writer, asked less of more values. -/
theorem Readable.weaken {fits' : α → Prop} {view' : α → δ} (readable : Readable write fits view)
    (fewer : ∀ a, fits' a → fits a) (coarser : ∀ a b, view a = view b → view' a = view' b) :
    Readable write fits' view' where
  split left right _ _ same := by
    obtain ⟨alike, follows⟩ := readable.split (fewer _ left) (fewer _ right) same
    exact ⟨coarser _ _ alike, follows⟩

/-- One value right after another. -/
theorem Readable.pair {β ε : Type*} {write' : β → List σ} {fits' : β → Prop} {view' : β → ε}
    (first : Readable write fits view) (second : Readable write' fits' view') :
    Readable (fun p : α × β => write p.1 ++ write' p.2) (fun p => fits p.1 ∧ fits' p.2)
      (fun p => (view p.1, view' p.2)) where
  split left right _ _ same := by
    rw [List.append_assoc, List.append_assoc] at same
    obtain ⟨alike, follows⟩ := first.split left.1 right.1 same
    obtain ⟨alike', after⟩ := second.split left.2 right.2 follows
    exact ⟨Prod.ext alike alike', after⟩

theorem Readable.symbol {f : α → σ} (injective : Function.Injective f) :
    Readable (fun a => [f a]) (fun _ => True) id where
  split _ _ _ _ same := by
    rw [List.singleton_append, List.singleton_append, List.cons.injEq] at same
    exact ⟨injective same.1, same.2⟩

theorem Readable.sized {n : Nat} (length : ∀ a, (write a).length = n)
    (injective : Function.Injective write) : Readable write (fun _ => True) id where
  split _ _ _ _ same := by
    obtain ⟨heads, tails⟩ := List.append_inj same ((length _).trans (length _).symm)
    exact ⟨injective heads, tails⟩

/-- An optional value after a mark that says whether it is there. -/
theorem Readable.option {present absent : σ} (apart : present ≠ absent)
    (readable : Readable write fits view) {writeOption : Option α → List σ}
    (some : ∀ a, writeOption (some a) = present :: write a) (none : writeOption none = [absent]) :
    Readable writeOption (fun value => ∀ a, value = .some a → fits a) (Option.map view) where
  split {value value'} left right rest rest' same := by
    cases value with
    | none =>
      cases value' with
      | none =>
        rw [none, List.singleton_append, List.singleton_append, List.cons.injEq] at same
        exact ⟨rfl, same.2⟩
      | some b =>
        rw [none, some, List.singleton_append, List.cons_append, List.cons.injEq] at same
        exact absurd same.1.symm apart
    | some a =>
      cases value' with
      | none =>
        rw [none, some, List.singleton_append, List.cons_append, List.cons.injEq] at same
        exact absurd same.1 apart
      | some b =>
        rw [some, some, List.cons_append, List.cons_append, List.cons.injEq] at same
        obtain ⟨alike, follows⟩ := readable.split (left a rfl) (right b rfl) same.2
        exact ⟨congrArg Option.some alike, follows⟩

/-- One alternative of a union: the payload after the mark of the alternative. -/
theorem Readable.marked (readable : Readable write fits view) (mark : σ) :
    Readable (fun a => mark :: write a) fits view where
  split left right _ _ same := by
    rw [List.cons_append, List.cons_append, List.cons.injEq] at same
    exact readable.split left right same.2

theorem Readable.elements (readable : Readable write fits view) {xs ys : List α}
    (left : ∀ a ∈ xs, fits a) (right : ∀ b ∈ ys, fits b) (length : xs.length = ys.length)
    {rest rest' : List σ} (same : xs.flatMap write ++ rest = ys.flatMap write ++ rest') :
    xs.map view = ys.map view ∧ rest = rest' := by
  induction xs generalizing ys with
  | nil =>
    rw [List.length_nil, eq_comm, List.length_eq_zero_iff] at length
    subst length
    exact ⟨rfl, same⟩
  | cons x xs ih =>
    cases ys with
    | nil => cases length
    | cons y ys =>
      rw [List.flatMap_cons, List.flatMap_cons, List.append_assoc, List.append_assoc] at same
      obtain ⟨alike, follows⟩ := readable.split (left x (by simp)) (right y (by simp)) same
      have lengths : xs.length = ys.length := by simpa using length
      obtain ⟨others, after⟩ := ih (fun a member => left a (List.mem_cons_of_mem _ member))
        (fun b member => right b (List.mem_cons_of_mem _ member)) lengths follows
      exact ⟨by rw [List.map_cons, List.map_cons, alike, others], after⟩

/-- A list whose length is known beforehand. -/
theorem Readable.block (readable : Readable write fits view) (n : Nat) :
    Readable (fun xs => xs.flatMap write) (fun xs => xs.length = n ∧ ∀ a ∈ xs, fits a)
      (List.map view) where
  split left right _ _ same :=
    readable.elements left.2 right.2 (left.1.trans right.1.symm) same

/-- A list after its length. -/
theorem Readable.counted {count : Nat → List σ} {bound : Nat}
    (header : Readable count (· < bound) id) (readable : Readable write fits view) :
    Readable (fun xs => count xs.length ++ xs.flatMap write)
      (fun xs => xs.length < bound ∧ ∀ a ∈ xs, fits a) (List.map view) where
  split left right _ _ same := by
    rw [List.append_assoc, List.append_assoc] at same
    obtain ⟨length, elements⟩ := header.split left.1 right.1 same
    exact readable.elements left.2 right.2 length elements

/-- Texts that open differently do not continue one another. -/
theorem not_prefix_of_head {head head' : List σ} {i : Nat} (left : i < head.length)
    (right : i < head'.length) (apart : head[i] ≠ head'[i]) (rest rest' : List σ) :
    ¬ (head ++ rest) <+: (head' ++ rest') := by
  intro front
  obtain ⟨more, same⟩ := front
  have here := congrArg (·[i]?) same
  simp only [List.append_assoc, List.getElem?_append_left left, List.getElem?_append_left right,
    List.getElem?_eq_getElem left, List.getElem?_eq_getElem right, Option.some.injEq] at here
  exact apart here

end Codec
