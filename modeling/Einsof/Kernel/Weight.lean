import Einsof.Kernel.Collections
import Mathlib.Algebra.Order.BigOperators.Group.List
import Mathlib.Algebra.Order.Group.Nat
import Mathlib.Algebra.GroupWithZero.Nat

namespace Argus

namespace VecSet

variable {T : Type*}

def weigh (g : T → Nat) (s : VecSet T) : Nat := (s.items.map g).sum

theorem weigh_one (s : VecSet T) : s.weigh (fun _ => 1) = s.len := by
  simp [weigh, len]

@[simp] theorem weigh_zero (s : VecSet T) : s.weigh (fun _ => 0) = 0 := by
  simp [weigh]

theorem len_le_of_mem {all : List T} (complete : ∀ x, x ∈ all) (s : VecSet T) : s.len ≤ all.length :=
  (List.subperm_of_subset s.unique fun x _ => complete x).length_le

variable [DecidableEq T]

theorem weigh_insert_le (g : T → Nat) (s : VecSet T) (x : T) :
    (s.insert x).weigh g ≤ s.weigh g + g x := by
  by_cases present : x ∈ s
  · rw [insert_of_mem present]
    exact Nat.le_add_right _ _
  · simp [weigh, insert_items_of_not_mem present]

theorem weigh_remove_le (g : T → Nat) (s : VecSet T) (x : T) : (s.remove x).weigh g ≤ s.weigh g := by
  rw [weigh, remove_items]
  exact (List.filter_sublist.map g).sum_le_sum fun _ _ => Nat.zero_le _

end VecSet

namespace VecMap

variable {K V W : Type*}

def weigh (g : K → V → Nat) (m : VecMap K V) : Nat := (m.entries.map fun e => g e.1 e.2).sum

theorem weigh_one (m : VecMap K V) : m.weigh (fun _ _ => 1) = m.len := by
  simp [weigh, len]

@[simp] theorem weigh_zero (m : VecMap K V) : m.weigh (fun _ _ => 0) = 0 := by
  simp [weigh]

variable [DecidableEq K]

theorem weigh_upsert_absent {m : VecMap K V} {key : K} (update : Option V → V) (g : K → V → Nat)
    (absent : m.get key = none) : (m.upsert key update).weigh g = m.weigh g + g key (update none) := by
  simp [weigh, upsert, upsertEntries_of_absent update (get_eq_none.mp absent)]

theorem weigh_upsert_present {m : VecMap K V} {key : K} {old : V} (update : Option V → V)
    (g : K → V → Nat) (found : m.get key = some old) :
    (m.upsert key update).weigh g + g key old = m.weigh g + g key (update (some old)) := by
  rcases m with ⟨entries, unique⟩
  obtain ⟨before, after, rfl, -, absent⟩ := split_of_mem unique (get_eq_some.mp found)
  simp only [weigh, upsert, upsertEntries_of_split absent, List.map_append, List.map_cons,
    List.sum_append, List.sum_cons]
  omega

theorem le_weigh (g : K → V → Nat) {m : VecMap K V} {key : K} {value : V} (found : m.get key = some value) :
    g key value ≤ m.weigh g :=
  List.single_le_sum (fun _ _ => Nat.zero_le _) _ (List.mem_map.mpr ⟨_, get_eq_some.mp found, rfl⟩)

theorem weigh_insert_le (g : K → V → Nat) (m : VecMap K V) (key : K) (value : V) :
    (m.insert key value).weigh g ≤ m.weigh g + g key value := by
  cases found : m.get key with
  | none => exact Nat.le_of_eq (weigh_upsert_absent _ g found)
  | some old =>
    have replaced := weigh_upsert_present (fun _ => value) g found
    unfold insert
    omega

theorem weigh_insert_same {m : VecMap K V} {key : K} {old value : V} (g : K → V → Nat)
    (found : m.get key = some old) (same : g key value = g key old) :
    (m.insert key value).weigh g = m.weigh g := by
  have replaced := weigh_upsert_present (fun _ => value) g found
  unfold insert
  omega

theorem weigh_remove_le (g : K → V → Nat) (m : VecMap K V) (key : K) :
    (m.remove key).weigh g ≤ m.weigh g := by
  rw [weigh, remove_entries]
  exact (List.filter_sublist.map _).sum_le_sum fun _ _ => Nat.zero_le _

theorem weigh_rebuild_le (m : VecMap K V) (change : K → V → Option W)
    {body : VecMap K W → K → V → VecMap K W} (g : K → V → Nat) (g' : K → W → Nat)
    (step : ∀ kept k v, body kept k v = match change k v with
      | some w => kept.insert k w
      | none => kept)
    (lighter : ∀ k v w, change k v = some w → g' k w ≤ g k v) :
    (m.forEntries new body).weigh g' ≤ m.weigh g := by
  rw [weigh, forEntries_rebuild m change step, weigh]
  induction m.entries with
  | nil => exact Nat.le_refl _
  | cons entry entries ih =>
    cases changed : change entry.1 entry.2 with
    | none =>
      simp only [List.filterMap_cons, changed, Option.map_none, List.map_cons, List.sum_cons]
      omega
    | some w =>
      have light := lighter _ _ _ changed
      simp only [List.filterMap_cons, changed, Option.map_some, List.map_cons, List.sum_cons]
      omega

section SetValued

variable {T : Type*} [DecidableEq T]

theorem weigh_insertInto_key (g : K → Nat) (m : VecMap K (VecSet T)) (key : K) (elem : T) :
    (m.insertInto key elem).weigh (fun k _ => g k) =
      m.weigh (fun k _ => g k) + if m.containsKey key then 0 else g key := by
  rw [containsKey_eq]
  cases found : m.get key with
  | none => exact weigh_upsert_absent _ _ found
  | some old =>
    exact Nat.add_right_cancel (weigh_upsert_present _ (fun k (_ : VecSet T) => g k) found)

theorem weigh_foldl_insertInto_key (g : K → Nat) (xs : List T) (m : VecMap K (VecSet T)) (key : K) :
    (xs.foldl (fun acc x => acc.insertInto key x) m).weigh (fun k _ => g k) ≤
      m.weigh (fun k _ => g k) + if m.containsKey key then 0 else g key := by
  induction xs generalizing m with
  | nil => exact Nat.le_add_right _ _
  | cons x xs ih =>
    have first := weigh_insertInto_key g m key x
    have present : (m.insertInto key x).containsKey key = true := by
      simp [insertInto, get_upsert]
    have rest := ih (m.insertInto key x)
    rw [present, first] at rest
    simpa using rest

end SetValued

end VecMap

end Argus
