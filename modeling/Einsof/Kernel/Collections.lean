import Mathlib.Data.List.Nodup
import Einsof.Base.Scan

namespace Argus

/-- An order-free finite set kept in a vector; its elements are unique. -/
structure VecSet (T : Type*) where
  items : List T
  unique : items.Nodup

/-- An order-free finite map kept in a vector of entries; its keys are unique. -/
structure VecMap (K V : Type*) where
  entries : List (K × V)
  unique : (entries.map Prod.fst).Nodup

namespace VecSet

variable {T : Type*}

theorem ext_items {s t : VecSet T} (same : s.items = t.items) : s = t := by
  cases s; cases t; cases same; rfl

instance : Membership T (VecSet T) := ⟨fun s x => x ∈ s.items⟩

theorem mem_def {s : VecSet T} {x : T} : x ∈ s ↔ x ∈ s.items := Iff.rfl

theorem foldl_all_items {body : Bool → T → Bool} (good : T → Prop) {s : VecSet T}
    (step : ∀ ok x, body ok x = true ↔ ok = true ∧ good x) (ok : Bool) :
    s.items.foldl body ok = true ↔ ok = true ∧ ∀ x ∈ s, good x :=
  Scan.foldl_all good step s.items ok

theorem foldl_latch_items {s : VecSet T} (bad : T → Prop) [DecidablePred bad] {ok : Bool} :
    s.items.foldl (fun ok x => if bad x then false else ok) ok = true ↔ ok = true ∧ ∀ x ∈ s, ¬ bad x :=
  Scan.foldl_latch_false bad s.items ok

variable [DecidableEq T]

instance : DecidableEq (VecSet T) := fun s t =>
  decidable_of_iff (s.items = t.items) ⟨ext_items, congrArg VecSet.items⟩

instance (s : VecSet T) (x : T) : Decidable (x ∈ s) := inferInstanceAs (Decidable (x ∈ s.items))

def new : VecSet T := ⟨[], List.nodup_nil⟩

def len (s : VecSet T) : Nat := s.items.length

def isEmpty (s : VecSet T) : Bool := s.items.length == 0

def contains (s : VecSet T) (x : T) : Bool :=
  s.items.foldl (fun found y => if y = x then true else found) false

@[simp] theorem contains_iff {s : VecSet T} {x : T} : s.contains x = true ↔ x ∈ s := by
  rw [contains, Scan.foldl_latch_true, mem_def]
  simp

@[simp] theorem contains_false_iff {s : VecSet T} {x : T} : s.contains x = false ↔ x ∉ s := by
  rw [← Bool.not_eq_true, contains_iff]

def insert (s : VecSet T) (x : T) : VecSet T :=
  if absent : s.contains x = false then
    ⟨s.items ++ [x], by
      have fresh : x ∉ s.items := contains_false_iff.mp absent
      rw [List.nodup_append]
      refine ⟨s.unique, List.nodup_singleton x, ?_⟩
      intro y member z single same
      subst same
      exact fresh (by simpa [List.mem_singleton.mp single] using member)⟩
  else s

def remove (s : VecSet T) (x : T) : VecSet T :=
  ⟨s.items.foldl (fun kept y => if y ≠ x then kept ++ [y] else kept) [], by
    rw [Scan.foldl_keep, List.nil_append]
    exact s.unique.filter _⟩

def unionWith (s other : VecSet T) : VecSet T :=
  other.items.foldl (fun acc x => acc.insert x) s

def fromIter (xs : List T) : VecSet T :=
  xs.foldl (fun acc x => acc.insert x) new

omit [DecidableEq T] in
@[simp] theorem mem_new {x : T} : x ∉ (new : VecSet T) := List.not_mem_nil

omit [DecidableEq T] in
@[simp] theorem isEmpty_iff {s : VecSet T} : s.isEmpty = true ↔ ∀ x, x ∉ s := by
  simp only [isEmpty, beq_iff_eq, List.length_eq_zero_iff, mem_def, List.eq_nil_iff_forall_not_mem]

@[simp] theorem mem_insert {s : VecSet T} {x y : T} : y ∈ s.insert x ↔ y ∈ s ∨ y = x := by
  unfold insert
  split
  · simp [mem_def]
  · rename_i present
    have member : x ∈ s := by simpa using present
    constructor
    · exact .inl
    · intro either
      rcases either with old | rfl
      · exact old
      · exact member

@[simp] theorem remove_items {s : VecSet T} {x : T} :
    (s.remove x).items = s.items.filter (· ≠ x) :=
  (Scan.foldl_keep (· ≠ x) s.items []).trans (List.nil_append _)

theorem remove_comm (s : VecSet T) (x y : T) : (s.remove x).remove y = (s.remove y).remove x := by
  apply ext_items
  rw [remove_items, remove_items, remove_items, remove_items, List.filter_comm]

@[simp] theorem mem_remove {s : VecSet T} {x y : T} : y ∈ s.remove x ↔ y ∈ s ∧ y ≠ x := by
  simp [mem_def]

theorem mem_foldl_insert (xs : List T) (s : VecSet T) (y : T) :
    y ∈ xs.foldl (fun acc x => acc.insert x) s ↔ y ∈ s ∨ y ∈ xs := by
  induction xs generalizing s with
  | nil => simp
  | cons x xs ih => rw [List.foldl_cons, ih, mem_insert, List.mem_cons, or_assoc]

@[simp] theorem mem_unionWith {s other : VecSet T} {y : T} :
    y ∈ s.unionWith other ↔ y ∈ s ∨ y ∈ other := mem_foldl_insert _ _ _

@[simp] theorem mem_fromIter {xs : List T} {y : T} : y ∈ fromIter xs ↔ y ∈ xs := by
  rw [fromIter, mem_foldl_insert]
  simp

theorem insert_items_of_not_mem {s : VecSet T} {x : T} (fresh : x ∉ s) :
    (s.insert x).items = s.items ++ [x] := by
  simp [insert, fresh]

theorem insert_of_mem {s : VecSet T} {x : T} (present : x ∈ s) : s.insert x = s := by
  simp [insert, present]

end VecSet

namespace VecMap

variable {K V W : Type*}

theorem ext_entries {m n : VecMap K V} (same : m.entries = n.entries) : m = n := by
  cases m; cases n; cases same; rfl

theorem split_of_mem {entries : List (K × V)} (unique : (entries.map Prod.fst).Nodup) {key : K}
    {value : V} (member : (key, value) ∈ entries) :
    ∃ before after, entries = before ++ (key, value) :: after ∧
      key ∉ before.map Prod.fst ∧ key ∉ after.map Prod.fst := by
  obtain ⟨before, after, rfl⟩ := List.append_of_mem member
  refine ⟨before, after, rfl, ?_, ?_⟩
  · simp only [List.map_append, List.map_cons, List.nodup_append] at unique
    intro earlier
    exact unique.2.2 key earlier key (by simp) rfl
  · simp only [List.map_append, List.map_cons, List.nodup_append, List.nodup_cons] at unique
    exact unique.2.1.1

variable [DecidableEq K]

instance [DecidableEq V] : DecidableEq (VecMap K V) := fun m n =>
  decidable_of_iff (m.entries = n.entries) ⟨ext_entries, congrArg VecMap.entries⟩

def new : VecMap K V := ⟨[], List.nodup_nil⟩

def len (m : VecMap K V) : Nat := m.entries.length

def isEmpty (m : VecMap K V) : Bool := m.entries.length == 0

def keys (m : VecMap K V) : List K := m.entries.map Prod.fst

def containsKey (m : VecMap K V) (key : K) : Bool :=
  m.entries.foldl (fun found entry => if entry.1 = key then true else found) false

/-- The index loop shared by every keyed access: the last matching position, or the length. -/
def position (entries : List (K × V)) (key : K) : Nat :=
  entries.zipIdx.foldl (fun idx slot => if slot.1.1 = key then slot.2 else idx) entries.length

def get (m : VecMap K V) (key : K) : Option V :=
  let idx := position m.entries key
  if present : idx < m.entries.length then some m.entries[idx].2 else none

def getCloned (m : VecMap K V) (key : K) : Option V :=
  let idx := position m.entries key
  if present : idx < m.entries.length then some m.entries[idx].2 else none

/-- Key at position `i`, for traversal by an index loop. -/
def keyAt (m : VecMap K V) (i : Nat) (bound : i < m.len) : K := (m.entries.get ⟨i, bound⟩).1

/-- Value at position `i`, for traversal by an index loop. -/
def valAt (m : VecMap K V) (i : Nat) (bound : i < m.len) : V := (m.entries.get ⟨i, bound⟩).2

@[simp] theorem getCloned_eq_get (m : VecMap K V) (key : K) : m.getCloned key = m.get key := rfl

theorem foldl_position_of_absent (entries : List (K × V)) (key : K) (n idx : Nat)
    (absent : key ∉ entries.map Prod.fst) :
    (entries.zipIdx n).foldl (fun idx slot => if slot.1.1 = key then slot.2 else idx) idx = idx := by
  induction entries generalizing n with
  | nil => rfl
  | cons entry entries ih =>
    simp only [List.map_cons, List.mem_cons, not_or] at absent
    rw [List.zipIdx_cons, List.foldl_cons, if_neg (fun same => absent.1 same.symm)]
    exact ih (n + 1) absent.2

theorem position_of_absent {entries : List (K × V)} {key : K}
    (absent : key ∉ entries.map Prod.fst) : position entries key = entries.length :=
  foldl_position_of_absent entries key 0 _ absent

theorem position_of_split {before after : List (K × V)} {key : K} {value : V}
    (absent : key ∉ after.map Prod.fst) :
    position (before ++ (key, value) :: after) key = before.length := by
  rw [position, List.zipIdx_append, List.foldl_append, List.zipIdx_cons, List.foldl_cons, if_pos rfl]
  rw [foldl_position_of_absent after key _ _ absent]
  omega

theorem get_eq_some {m : VecMap K V} {key : K} {value : V} :
    m.get key = some value ↔ (key, value) ∈ m.entries := by
  rcases m with ⟨entries, unique⟩
  constructor
  · intro found
    by_cases present : key ∈ entries.map Prod.fst
    · obtain ⟨⟨k, v⟩, member, rfl⟩ := List.mem_map.mp present
      obtain ⟨before, after, rfl, -, absent⟩ := split_of_mem unique member
      simp only [get, position_of_split absent] at found
      simp only [List.length_append, List.length_cons, Nat.lt_add_right_iff_pos, Nat.zero_lt_succ,
        dif_pos, List.getElem_append_right (Nat.le_refl _), Nat.sub_self, List.getElem_cons_zero,
        Option.some.injEq] at found
      simp [found]
    · simp [get, position_of_absent present] at found
  · intro member
    obtain ⟨before, after, rfl, -, absent⟩ := split_of_mem unique member
    simp [get, position_of_split absent]

theorem get_eq_none {m : VecMap K V} {key : K} :
    m.get key = none ↔ key ∉ m.entries.map Prod.fst := by
  rw [Option.eq_none_iff_forall_ne_some]
  constructor
  · intro none member
    obtain ⟨⟨k, v⟩, present, rfl⟩ := List.mem_map.mp member
    exact none v (get_eq_some.mpr present)
  · intro absent v found
    exact absent (List.mem_map_of_mem (get_eq_some.mp found))

@[simp] theorem containsKey_eq (m : VecMap K V) (key : K) : m.containsKey key = (m.get key).isSome := by
  rw [Bool.eq_iff_iff, containsKey, Scan.foldl_latch_true, Option.isSome_iff_exists]
  constructor
  · intro either
    rcases either with impossible | ⟨⟨k, v⟩, member, rfl⟩
    · cases impossible
    · exact ⟨v, get_eq_some.mpr member⟩
  · intro facts
    rcases facts with ⟨v, found⟩
    exact .inr ⟨(key, v), get_eq_some.mp found, rfl⟩

/-- Replace the value at `key`'s position, or push an entry when there is none. The stored value is
    computed from the one found. -/
def upsertEntries (entries : List (K × V)) (key : K) (update : Option V → V) : List (K × V) :=
  let idx := position entries key
  if present : idx < entries.length then entries.set idx (key, update (some entries[idx].2))
  else entries ++ [(key, update none)]

theorem upsertEntries_of_absent {entries : List (K × V)} {key : K} (update : Option V → V)
    (absent : key ∉ entries.map Prod.fst) :
    upsertEntries entries key update = entries ++ [(key, update none)] := by
  simp [upsertEntries, position_of_absent absent]

theorem upsertEntries_of_split {before after : List (K × V)} {key : K} {value : V}
    {update : Option V → V} (absent : key ∉ after.map Prod.fst) :
    upsertEntries (before ++ (key, value) :: after) key update =
      before ++ (key, update (some value)) :: after := by
  simp [upsertEntries, position_of_split absent]

theorem upsertEntries_unique {entries : List (K × V)} (unique : (entries.map Prod.fst).Nodup)
    (key : K) (update : Option V → V) :
    ((upsertEntries entries key update).map Prod.fst).Nodup := by
  by_cases present : key ∈ entries.map Prod.fst
  · obtain ⟨⟨k, v⟩, member, rfl⟩ := List.mem_map.mp present
    obtain ⟨before, after, rfl, -, absent⟩ := split_of_mem unique member
    rw [upsertEntries_of_split absent]
    simpa using unique
  · rw [upsertEntries_of_absent _ present, List.map_append, List.nodup_append]
    refine ⟨unique, by simp, ?_⟩
    intro a member b single same
    subst same
    simp only [List.map_cons, List.map_nil, List.mem_singleton] at single
    exact present (single ▸ member)

def upsert (m : VecMap K V) (key : K) (update : Option V → V) : VecMap K V :=
  ⟨upsertEntries m.entries key update, upsertEntries_unique m.unique key update⟩

theorem get_upsert (m : VecMap K V) (key other : K) (update : Option V → V) :
    (m.upsert key update).get other = if other = key then some (update (m.get key)) else m.get other := by
  rcases m with ⟨entries, unique⟩
  by_cases present : key ∈ entries.map Prod.fst
  · obtain ⟨⟨k, v⟩, member, rfl⟩ := List.mem_map.mp present
    have found : (⟨entries, unique⟩ : VecMap K V).get k = some v := get_eq_some.mpr member
    obtain ⟨before, after, rfl, absent, absent'⟩ := split_of_mem unique member
    rw [found]
    ext value
    rw [get_eq_some]
    simp only [upsert, upsertEntries_of_split absent']
    by_cases same : other = k
    · subst same
      have front : (other, value) ∉ before := fun h => absent (List.mem_map_of_mem h)
      have back : (other, value) ∉ after := fun h => absent' (List.mem_map_of_mem h)
      simp [front, back, eq_comm]
    · simp [same, get_eq_some]
  · have missing : (⟨entries, unique⟩ : VecMap K V).get key = none := get_eq_none.mpr present
    rw [missing]
    ext value
    rw [get_eq_some]
    simp only [upsert, upsertEntries_of_absent _ present]
    by_cases same : other = key
    · subst same
      have front : (other, value) ∉ entries := fun h => present (List.mem_map_of_mem h)
      simp [front, eq_comm]
    · simp [same, get_eq_some]

theorem upsert_of_fixed {m : VecMap K V} {key : K} {value : V} {update : Option V → V}
    (found : m.get key = some value) (fixed : update (some value) = value) : m.upsert key update = m := by
  rcases m with ⟨entries, unique⟩
  obtain ⟨before, after, rfl, -, absent⟩ := split_of_mem unique (get_eq_some.mp found)
  apply ext_entries
  simp only [upsert, upsertEntries_of_split absent, fixed]

def insert (m : VecMap K V) (key : K) (value : V) : VecMap K V :=
  m.upsert key (fun _ => value)

def remove (m : VecMap K V) (key : K) : VecMap K V :=
  ⟨m.entries.foldl (fun kept entry => if entry.1 ≠ key then kept ++ [entry] else kept) [], by
    rw [Scan.foldl_keep, List.nil_append]
    exact m.unique.sublist (List.filter_sublist.map _)⟩

@[simp] theorem get_new (key : K) : (new : VecMap K V).get key = none := rfl

@[simp] theorem get_insert (m : VecMap K V) (key other : K) (value : V) :
    (m.insert key value).get other = if other = key then some value else m.get other :=
  get_upsert m key other _

@[simp] theorem remove_entries (m : VecMap K V) (key : K) :
    (m.remove key).entries = m.entries.filter (fun entry => entry.1 ≠ key) :=
  (Scan.foldl_keep (fun entry : K × V => entry.1 ≠ key) m.entries []).trans (List.nil_append _)

@[simp] theorem get_remove (m : VecMap K V) (key other : K) :
    (m.remove key).get other = if other = key then none else m.get other := by
  ext value
  rw [get_eq_some, remove_entries]
  by_cases same : other = key <;> simp [same, get_eq_some]

theorem remove_of_absent {m : VecMap K V} {key : K} (absent : m.get key = none) : m.remove key = m := by
  apply ext_entries
  rw [remove_entries, List.filter_eq_self]
  intro entry member
  have differs : entry.1 ≠ key := fun same =>
    get_eq_none.mp absent (same ▸ List.mem_map_of_mem member)
  simpa using differs

theorem remove_comm (m : VecMap K V) (key key' : K) : (m.remove key).remove key' = (m.remove key').remove key := by
  apply ext_entries
  rw [remove_entries, remove_entries, remove_entries, remove_entries, List.filter_comm]

/-- The index loop over a map that clones each key and reads its value back by that key. -/
def forEntries {σ : Type*} (m : VecMap K V) (init : σ) (body : σ → K → V → σ) : σ :=
  m.keys.foldl (fun acc key =>
    match m.getCloned key with
    | some value => body acc key value
    | none => acc) init

/-- Reading back by key finds the entry the loop stands on, so the loop visits each entry once. -/
theorem forEntries_eq {σ : Type*} (m : VecMap K V) (init : σ) (body : σ → K → V → σ) :
    m.forEntries init body = m.entries.foldl (fun acc entry => body acc entry.1 entry.2) init := by
  have visit : ∀ entry ∈ m.entries, m.get entry.1 = some entry.2 := fun entry member =>
    get_eq_some.mpr member
  unfold forEntries keys
  rw [List.foldl_map]
  generalize m.entries = entries at visit
  induction entries generalizing init with
  | nil => rfl
  | cons entry entries ih =>
    simp only [List.foldl_cons, getCloned_eq_get, visit entry (by simp)]
    exact ih _ (fun e member => visit e (List.mem_cons_of_mem _ member))

theorem forEntries_all {m : VecMap K V} {body : Bool → K → V → Bool} (good : K → V → Prop)
    (step : ∀ ok k v, body ok k v = true ↔ ok = true ∧ good k v) (ok : Bool) :
    m.forEntries ok body = true ↔ ok = true ∧ ∀ k v, m.get k = some v → good k v := by
  rw [forEntries_eq, Scan.foldl_all (fun entry : K × V => good entry.1 entry.2)
    (fun ok entry => step ok entry.1 entry.2)]
  simp only [Prod.forall, get_eq_some]

theorem forEntries_latch_false {m : VecMap K V} (bad : K → V → Prop) [∀ k v, Decidable (bad k v)]
    {ok : Bool} :
    m.forEntries ok (fun ok k v => if bad k v then false else ok) = true ↔
      ok = true ∧ ∀ k v, m.get k = some v → ¬ bad k v := by
  apply forEntries_all
  intro ok k v
  by_cases h : bad k v <;> simp [h]

theorem forEntries_latch_true {m : VecMap K V} (hit : K → V → Prop) [∀ k v, Decidable (hit k v)]
    {found : Bool} :
    m.forEntries found (fun found k v => if hit k v then true else found) = true ↔
      found = true ∨ ∃ k v, m.get k = some v ∧ hit k v := by
  rw [forEntries_eq, Scan.foldl_latch_true (fun entry : K × V => hit entry.1 entry.2)]
  simp only [Prod.exists, get_eq_some]

/-- The rebuild loop: each entry is re-inserted under its key, changed or not at all. -/
theorem forEntries_rebuild (m : VecMap K V) (change : K → V → Option W)
    {body : VecMap K W → K → V → VecMap K W}
    (step : ∀ kept k v, body kept k v = match change k v with
      | some w => kept.insert k w
      | none => kept) :
    (m.forEntries new body).entries =
      m.entries.filterMap (fun entry => (change entry.1 entry.2).map (entry.1, ·)) := by
  have loop : ∀ (entries : List (K × V)) (kept : VecMap K W), (entries.map Prod.fst).Nodup →
      (∀ key ∈ entries.map Prod.fst, key ∉ kept.entries.map Prod.fst) →
      (entries.foldl (fun acc entry => body acc entry.1 entry.2) kept).entries =
        kept.entries ++ entries.filterMap (fun entry => (change entry.1 entry.2).map (entry.1, ·)) := by
    intro entries
    induction entries with
    | nil => intro kept _ _; simp
    | cons entry entries ih =>
      intro kept unique fresh
      simp only [List.map_cons, List.nodup_cons] at unique
      simp only [List.map_cons, List.mem_cons, forall_eq_or_imp] at fresh
      rw [List.foldl_cons, step]
      cases changed : change entry.1 entry.2 with
      | none => simpa [changed] using ih kept unique.2 fresh.2
      | some w =>
        have pushed : (kept.insert entry.1 w).entries = kept.entries ++ [(entry.1, w)] :=
          upsertEntries_of_absent (fun _ => w) fresh.1
        rw [ih _ unique.2, pushed]
        · simp [changed]
        · intro key member
          rw [pushed]
          simp only [List.map_append, List.map_cons, List.map_nil, List.mem_append, List.mem_singleton,
            not_or]
          exact ⟨fresh.2 key member, fun same => unique.1 (same ▸ member)⟩
  rw [forEntries_eq, loop m.entries new m.unique (by intro key _; exact List.not_mem_nil)]
  rfl

theorem rebuild_of_fixed {m : VecMap K V} (change : K → V → Option V)
    {body : VecMap K V → K → V → VecMap K V}
    (step : ∀ kept k v, body kept k v = match change k v with
      | some w => kept.insert k w
      | none => kept)
    (fixed : ∀ k v, m.get k = some v → change k v = some v) : m.forEntries new body = m := by
  apply ext_entries
  rw [forEntries_rebuild m change step]
  refine (List.filterMap_congr (g := some) ?_).trans (List.filterMap_some ..)
  intro entry member
  rw [fixed _ _ (get_eq_some.mpr member), Option.map_some]

section Retain

variable {keep keep' : K → V → Prop} [∀ k v, Decidable (keep k v)] [∀ k v, Decidable (keep' k v)]

/-- The rebuild loop that keeps some entries and drops the others. -/
theorem retain_entries (m : VecMap K V) :
    (m.forEntries new (fun kept k v => if keep k v then kept.insert k v else kept)).entries =
      m.entries.filter (fun entry => keep entry.1 entry.2) := by
  rw [forEntries_rebuild m (fun k v => if keep k v then some v else none)
    (by intro kept k v; by_cases kept : keep k v <;> simp [kept])]
  rw [← List.filterMap_eq_filter]
  apply List.filterMap_congr
  intro entry _
  by_cases kept : keep entry.1 entry.2 <;> simp [kept, Option.guard]

theorem retain_of_all {m : VecMap K V} (all : ∀ k v, m.get k = some v → keep k v) :
    m.forEntries new (fun kept k v => if keep k v then kept.insert k v else kept) = m := by
  apply ext_entries
  rw [retain_entries, List.filter_eq_self]
  intro entry member
  exact decide_eq_true (all _ _ (get_eq_some.mpr member))

theorem retain_comm (m : VecMap K V) :
    (m.forEntries new (fun kept k v => if keep k v then kept.insert k v else kept)).forEntries new
        (fun kept k v => if keep' k v then kept.insert k v else kept) =
      (m.forEntries new (fun kept k v => if keep' k v then kept.insert k v else kept)).forEntries new
        (fun kept k v => if keep k v then kept.insert k v else kept) := by
  apply ext_entries
  rw [retain_entries, retain_entries, retain_entries, retain_entries, List.filter_comm]

end Retain

theorem get_rebuild (m : VecMap K V) (change : K → V → Option W)
    (body : VecMap K W → K → V → VecMap K W)
    (step : ∀ kept k v, body kept k v = match change k v with
      | some w => kept.insert k w
      | none => kept) (key : K) :
    (m.forEntries new body).get key = (m.get key).bind (change key) := by
  ext w
  rw [get_eq_some, forEntries_rebuild m change step]
  simp only [List.mem_filterMap, Prod.exists, Option.map_eq_some_iff, Prod.mk.injEq,
    Option.bind_eq_some_iff, get_eq_some]
  constructor
  · intro facts
    rcases facts with ⟨k, v, member, w', changed, rfl, rfl⟩
    exact ⟨v, member, changed⟩
  · intro facts
    rcases facts with ⟨v, member, changed⟩
    exact ⟨key, v, member, w, changed, rfl, rfl⟩

theorem mem_forEntries_insert {T : Type*} [DecidableEq T] {m : VecMap K V} (pick : K → V → Prop)
    [∀ k v, Decidable (pick k v)] (out : V → T) {init : VecSet T} {x : T} :
    x ∈ m.forEntries init (fun acc k v => if pick k v then acc.insert (out v) else acc) ↔
      x ∈ init ∨ ∃ k v, m.get k = some v ∧ pick k v ∧ out v = x := by
  have loop : ∀ (entries : List (K × V)) (acc : VecSet T),
      x ∈ entries.foldl (fun acc e => if pick e.1 e.2 then acc.insert (out e.2) else acc) acc ↔
        x ∈ acc ∨ ∃ k v, (k, v) ∈ entries ∧ pick k v ∧ out v = x := by
    intro entries
    induction entries with
    | nil => simp
    | cons entry entries ih =>
      intro acc
      rw [List.foldl_cons, ih]
      by_cases picked : pick entry.1 entry.2
      · rw [if_pos picked, VecSet.mem_insert, or_assoc]
        refine or_congr_right ⟨?_, ?_⟩
        · intro either
          rcases either with rfl | ⟨k, v, member, chosen, same⟩
          · exact ⟨entry.1, entry.2, List.mem_cons_self, picked, rfl⟩
          · exact ⟨k, v, List.mem_cons_of_mem _ member, chosen, same⟩
        · intro facts
          rcases facts with ⟨k, v, member, chosen, same⟩
          rcases List.mem_cons.mp member with rfl | member
          · exact .inl same.symm
          · exact .inr ⟨k, v, member, chosen, same⟩
      · rw [if_neg picked]
        refine or_congr_right ⟨?_, ?_⟩
        · intro facts
          rcases facts with ⟨k, v, member, chosen, same⟩
          exact ⟨k, v, List.mem_cons_of_mem _ member, chosen, same⟩
        · intro facts
          rcases facts with ⟨k, v, member, chosen, same⟩
          rcases List.mem_cons.mp member with rfl | member
          · exact absurd chosen picked
          · exact ⟨k, v, member, chosen, same⟩
  rw [forEntries_eq, loop]
  simp only [get_eq_some]

def fromIter (entries : List (K × V)) : VecMap K V :=
  entries.foldl (fun acc entry => acc.insert entry.1 entry.2) new

section SetValued

variable {T : Type*} [DecidableEq T]

/-- Insert `elem` into the set at `key`, materialising an empty set first if `key` is absent. -/
def insertInto (m : VecMap K (VecSet T)) (key : K) (elem : T) : VecMap K (VecSet T) :=
  m.upsert key (fun found =>
    match found with
    | some s => s.insert elem
    | none => VecSet.new.insert elem)

def extendInto (m : VecMap K (VecSet T)) (key : K) (other : VecSet T) : VecMap K (VecSet T) :=
  m.upsert key (fun found =>
    match found with
    | some s => s.unionWith other
    | none => VecSet.new.unionWith other)

def getSetOrEmpty (m : VecMap K (VecSet T)) (key : K) : VecSet T :=
  match m.getCloned key with
  | some set => set
  | none => VecSet.new

def setContains (m : VecMap K (VecSet T)) (key : K) (elem : T) : Bool :=
  match m.getCloned key with
  | some set => set.contains elem
  | none => false

def setNonempty (m : VecMap K (VecSet T)) (key : K) : Bool :=
  match m.getCloned key with
  | some set => !set.isEmpty
  | none => false

def anyValueContains (m : VecMap K (VecSet T)) (elem : T) : Bool :=
  m.entries.foldl (fun found entry => if entry.2.contains elem = true then true else found) false

def removeFrom (m : VecMap K (VecSet T)) (key : K) (elem : T) : VecMap K (VecSet T) :=
  let idx := position m.entries key
  if present : idx < m.entries.length then
    ⟨m.entries.set idx (m.entries[idx].1, m.entries[idx].2.remove elem), by
      have bound : idx < (m.entries.map Prod.fst).length := by simpa using present
      have keysKept : m.entries[idx].1 = (m.entries.map Prod.fst)[idx] := by simp
      rw [List.map_set, keysKept, List.set_getElem_self]
      exact m.unique⟩
  else m

theorem get_removeFrom (m : VecMap K (VecSet T)) (key other : K) (x : T) :
    (m.removeFrom key x).get other =
      if other = key then (m.get key).map (·.remove x) else m.get other := by
  rcases m with ⟨entries, unique⟩
  by_cases present : key ∈ entries.map Prod.fst
  · obtain ⟨⟨k, held⟩, member, rfl⟩ := List.mem_map.mp present
    have found : (⟨entries, unique⟩ : VecMap K (VecSet T)).get k = some held := get_eq_some.mpr member
    obtain ⟨before, after, rfl, absent, absent'⟩ := split_of_mem unique member
    rw [found]
    ext value
    rw [get_eq_some]
    simp only [removeFrom, position_of_split absent']
    by_cases same : other = k
    · subst same
      have front : (other, value) ∉ before := fun h => absent (List.mem_map_of_mem h)
      have back : (other, value) ∉ after := fun h => absent' (List.mem_map_of_mem h)
      simp [front, back, eq_comm]
    · simp [same, get_eq_some]
  · have missing : (⟨entries, unique⟩ : VecMap K (VecSet T)).get key = none := get_eq_none.mpr present
    have kept : (⟨entries, unique⟩ : VecMap K (VecSet T)).removeFrom key x = ⟨entries, unique⟩ := by
      simp [removeFrom, position_of_absent present]
    rw [kept, missing]
    by_cases same : other = key
    · rw [if_pos same, same, missing]
      rfl
    · rw [if_neg same]

omit [DecidableEq T] in
theorem mem_getSetOrEmpty {m : VecMap K (VecSet T)} {key : K} {x : T} :
    x ∈ m.getSetOrEmpty key ↔ ∃ s, m.get key = some s ∧ x ∈ s := by
  unfold getSetOrEmpty
  cases found : m.get key <;> simp [found]

@[simp] theorem setContains_iff {m : VecMap K (VecSet T)} {key : K} {x : T} :
    m.setContains key x = true ↔ x ∈ m.getSetOrEmpty key := by
  unfold setContains getSetOrEmpty
  cases found : m.get key <;> simp [found]

omit [DecidableEq T] in
@[simp] theorem mem_getSetOrEmpty_new {key : K} {x : T} :
    x ∉ (new : VecMap K (VecSet T)).getSetOrEmpty key := by
  rw [mem_getSetOrEmpty]
  simp

theorem get_insertInto (m : VecMap K (VecSet T)) (key other : K) (x : T) :
    (m.insertInto key x).get other =
      if other = key then some ((m.getSetOrEmpty key).insert x) else m.get other := by
  unfold getSetOrEmpty insertInto
  rw [get_upsert, getCloned_eq_get]
  cases m.get key <;> rfl

/-- A member is not inserted a second time. -/
theorem insertInto_of_mem {m : VecMap K (VecSet T)} {key : K} {x : T} (held : x ∈ m.getSetOrEmpty key) :
    m.insertInto key x = m := by
  rw [mem_getSetOrEmpty] at held
  obtain ⟨members, found, member⟩ := held
  exact upsert_of_fixed found (VecSet.insert_of_mem member)

theorem get_extendInto (m : VecMap K (VecSet T)) (key other : K) (joined : VecSet T) :
    (m.extendInto key joined).get other =
      if other = key then some ((m.getSetOrEmpty key).unionWith joined) else m.get other := by
  unfold getSetOrEmpty extendInto
  rw [get_upsert, getCloned_eq_get]
  cases m.get key <;> rfl

theorem getSetOrEmpty_insertInto (m : VecMap K (VecSet T)) (key other : K) (x : T) :
    (m.insertInto key x).getSetOrEmpty other =
      if other = key then (m.getSetOrEmpty key).insert x else m.getSetOrEmpty other := by
  rw [getSetOrEmpty, getCloned_eq_get, get_insertInto]
  by_cases same : other = key <;> simp [same, getSetOrEmpty]

@[simp] theorem mem_insertInto {m : VecMap K (VecSet T)} {key other : K} {x y : T} :
    y ∈ (m.insertInto key x).getSetOrEmpty other ↔
      y ∈ m.getSetOrEmpty other ∨ (other = key ∧ y = x) := by
  rw [getSetOrEmpty_insertInto]
  by_cases same : other = key <;> simp [same]

omit [DecidableEq T] in
@[simp] theorem mem_remove_getSetOrEmpty {m : VecMap K (VecSet T)} {key other : K} {x : T} :
    x ∈ (m.remove key).getSetOrEmpty other ↔ x ∈ m.getSetOrEmpty other ∧ other ≠ key := by
  rw [mem_getSetOrEmpty, mem_getSetOrEmpty, get_remove]
  by_cases same : other = key <;> simp [same]

theorem mem_foldl_insertInto (xs : List T) (m : VecMap K (VecSet T)) (key other : K) (y : T) :
    y ∈ (xs.foldl (fun acc x => acc.insertInto key x) m).getSetOrEmpty other ↔
      y ∈ m.getSetOrEmpty other ∨ (other = key ∧ y ∈ xs) := by
  induction xs generalizing m with
  | nil => simp
  | cons x xs ih =>
    rw [List.foldl_cons, ih, mem_insertInto, List.mem_cons]
    tauto

theorem get_foldl_insertInto_of_ne (xs : List T) (m : VecMap K (VecSet T)) {key other : K}
    (ne : other ≠ key) : (xs.foldl (fun acc x => acc.insertInto key x) m).get other = m.get other := by
  induction xs generalizing m with
  | nil => rfl
  | cons x xs ih => rw [List.foldl_cons, ih, get_insertInto, if_neg ne]

end SetValued

end VecMap

end Argus
