import Mathlib.Data.Finset.Card
import Mathlib.Data.List.Induction
import Einsof.Kernel.Collections

/-! What the vector collections are for: finite sets, and finite partial functions. -/

namespace Argus

section Sets

variable {T : Type*}

def VecSet.toFinset (s : VecSet T) : Finset T := ⟨s.items, s.unique⟩

@[simp] theorem VecSet.mem_toFinset {s : VecSet T} {x : T} : x ∈ s.toFinset ↔ x ∈ s := Iff.rfl

/-- A set as a sequence of operations leaves it; the set joined in is itself built so. -/
inductive SetBuild (T : Type*)
  | new
  | fromIter (xs : List T)
  | insert (s : SetBuild T) (x : T)
  | remove (s : SetBuild T) (x : T)
  | unionWith (s other : SetBuild T)

variable [DecidableEq T]

namespace VecSet

theorem toFinset_insert (s : VecSet T) (x : T) : (s.insert x).toFinset = Insert.insert x s.toFinset := by
  ext y
  rw [mem_toFinset, mem_insert, Finset.mem_insert, mem_toFinset, or_comm]

theorem toFinset_remove (s : VecSet T) (x : T) : (s.remove x).toFinset = s.toFinset.erase x := by
  ext y
  rw [mem_toFinset, mem_remove, Finset.mem_erase, mem_toFinset, and_comm]

theorem toFinset_unionWith (s other : VecSet T) :
    (s.unionWith other).toFinset = s.toFinset ∪ other.toFinset := by
  ext y
  rw [mem_toFinset, mem_unionWith, Finset.mem_union, mem_toFinset, mem_toFinset]

theorem toFinset_fromIter (xs : List T) : (fromIter xs).toFinset = xs.toFinset := by
  ext y
  rw [mem_toFinset, mem_fromIter, List.mem_toFinset]

end VecSet

namespace SetBuild

def build : SetBuild T → VecSet T
  | new => VecSet.new
  | fromIter xs => VecSet.fromIter xs
  | insert s x => s.build.insert x
  | remove s x => s.build.remove x
  | unionWith s other => s.build.unionWith other.build

/-- The mathematical set that the same operations give. -/
def meaning : SetBuild T → Finset T
  | new => ∅
  | fromIter xs => xs.toFinset
  | insert s x => Insert.insert x s.meaning
  | remove s x => s.meaning.erase x
  | unionWith s other => s.meaning ∪ other.meaning

theorem toFinset_build (b : SetBuild T) : b.build.toFinset = b.meaning := by
  induction b with
  | new => rfl
  | fromIter xs => exact VecSet.toFinset_fromIter xs
  | insert s x ih => rw [build, meaning, VecSet.toFinset_insert, ih]
  | remove s x ih => rw [build, meaning, VecSet.toFinset_remove, ih]
  | unionWith s other ih ih' => rw [build, meaning, VecSet.toFinset_unionWith, ih, ih']

end SetBuild

structure VecSet.Implements (s : VecSet T) (S : Finset T) : Prop where
  unique : s.items.Nodup
  contains : ∀ x, s.contains x = true ↔ x ∈ S
  len : s.len = S.card
  isEmpty : s.isEmpty = true ↔ S = ∅

theorem VecSet.implements (s : VecSet T) : s.Implements s.toFinset where
  unique := s.unique
  contains _ := VecSet.contains_iff
  len := rfl
  isEmpty := by
    rw [VecSet.isEmpty_iff, Finset.eq_empty_iff_forall_notMem]
    rfl

end Sets

section Maps

variable {K V W : Type*} [DecidableEq K]

/-- A map as a sequence of operations leaves it. -/
inductive MapBuild (K V : Type*)
  | new
  | fromIter (entries : List (K × V))
  | insert (m : MapBuild K V) (key : K) (value : V)
  | remove (m : MapBuild K V) (key : K)

theorem VecMap.get_fromIter (entries : List (K × V)) (key : K) :
    (VecMap.fromIter entries).get key = entries.reverse.lookup key := by
  induction entries using List.reverseRecOn with
  | nil => rfl
  | append_singleton entries last ih =>
    have step : VecMap.fromIter (entries ++ [last]) = (VecMap.fromIter entries).insert last.1 last.2 := by
      rw [VecMap.fromIter, List.foldl_append]
      rfl
    rw [step, VecMap.get_insert, ih, List.reverse_append, List.reverse_singleton, List.singleton_append,
      List.lookup_cons]
    by_cases same : key = last.1
    · simp [same]
    · have differs : (key == last.1) = false := beq_false_of_ne same
      rw [if_neg same, differs]

namespace MapBuild

def build : MapBuild K V → VecMap K V
  | new => VecMap.new
  | fromIter entries => VecMap.fromIter entries
  | insert m key value => m.build.insert key value
  | remove m key => m.build.remove key

/-- The partial function that the same operations give; the last entry of a key wins. -/
def meaning : MapBuild K V → K → Option V
  | new => fun _ => none
  | fromIter entries => fun key => entries.reverse.lookup key
  | insert m key value => Function.update m.meaning key (some value)
  | remove m key => Function.update m.meaning key none

theorem get_build (b : MapBuild K V) (key : K) : b.build.get key = b.meaning key := by
  induction b with
  | new => rfl
  | fromIter entries => exact VecMap.get_fromIter entries key
  | insert m written value ih => simp only [build, meaning, VecMap.get_insert, Function.update_apply, ih]
  | remove m dropped ih => simp only [build, meaning, VecMap.get_remove, Function.update_apply, ih]

end MapBuild

/-- The answers of a map that stands for a partial function, its values read by `read`. -/
structure VecMap.Implements (m : VecMap K V) (read : V → W) (f : K → Option W) : Prop where
  unique : m.keys.Nodup
  get : ∀ key, (m.get key).map read = f key
  getCloned : ∀ key, (m.getCloned key).map read = f key
  containsKey : ∀ key, m.containsKey key = true ↔ ∃ w, f key = some w
  domain : ∃ D : Finset K, (∀ key, key ∈ D ↔ f key ≠ none) ∧ m.len = D.card
  isEmpty : m.isEmpty = true ↔ ∀ key, f key = none
  positions : ∀ i bound, m.getCloned (m.keyAt i bound) = some (m.valAt i bound)

variable {m : VecMap K V} {read : V → W} {f : K → Option W}

theorem VecMap.mem_keys {key : K} : key ∈ m.keys ↔ m.get key ≠ none := by
  rw [Ne, VecMap.get_eq_none, not_not]
  rfl

theorem VecMap.implements (agrees : ∀ key, (m.get key).map read = f key) : m.Implements read f := by
  have domain : ∀ key, key ∈ m.keys.toFinset ↔ f key ≠ none := by
    intro key
    rw [List.mem_toFinset, VecMap.mem_keys, ← agrees, Ne, Ne, Option.map_eq_none_iff]
  have counted : m.keys.toFinset.card = m.len := by
    have distinct : m.keys.Nodup := m.unique
    rw [List.toFinset_card_of_nodup distinct]
    exact List.length_map _
  refine ⟨m.unique, agrees, agrees, fun key => ?_, ⟨_, domain, counted.symm⟩, ?_, fun i bound => ?_⟩
  · rw [VecMap.containsKey_eq, ← agrees, ← Option.isSome_iff_exists, Option.isSome_map]
  · have none : m.isEmpty = true ↔ m.keys = [] := by
      rw [VecMap.isEmpty, beq_iff_eq, List.length_eq_zero_iff, VecMap.keys, List.map_eq_nil_iff]
    rw [none, List.eq_nil_iff_forall_not_mem]
    refine forall_congr' fun key => ?_
    rw [VecMap.mem_keys, not_not, ← agrees, Option.map_eq_none_iff]
  · exact VecMap.get_eq_some.mpr (List.get_mem m.entries ⟨i, bound⟩)

end Maps

section SetMaps

variable {K T : Type*} [DecidableEq K] [DecidableEq T]

/-- A map to sets as a sequence of operations leaves it; the sets written are themselves built so. -/
inductive SetMapBuild (K T : Type*)
  | new
  | fromIter (entries : List (K × SetBuild T))
  | insert (m : SetMapBuild K T) (key : K) (set : SetBuild T)
  | remove (m : SetMapBuild K T) (key : K)
  | insertInto (m : SetMapBuild K T) (key : K) (elem : T)
  | extendInto (m : SetMapBuild K T) (key : K) (other : SetBuild T)
  | removeFrom (m : SetMapBuild K T) (key : K) (elem : T)

namespace SetMapBuild

def build : SetMapBuild K T → VecMap K (VecSet T)
  | new => VecMap.new
  | fromIter entries => VecMap.fromIter (entries.map fun entry => (entry.1, entry.2.build))
  | insert m key set => m.build.insert key set.build
  | remove m key => m.build.remove key
  | insertInto m key elem => m.build.insertInto key elem
  | extendInto m key other => m.build.extendInto key other.build
  | removeFrom m key elem => m.build.removeFrom key elem

def meaning : SetMapBuild K T → K → Option (Finset T)
  | new => fun _ => none
  | fromIter entries => fun key => (entries.reverse.lookup key).map SetBuild.meaning
  | insert m key set => Function.update m.meaning key (some set.meaning)
  | remove m key => Function.update m.meaning key none
  | insertInto m key elem =>
    Function.update m.meaning key (some (Insert.insert elem ((m.meaning key).getD ∅)))
  | extendInto m key other =>
    Function.update m.meaning key (some ((m.meaning key).getD ∅ ∪ other.meaning))
  | removeFrom m key elem => Function.update m.meaning key ((m.meaning key).map (·.erase elem))

theorem lookup_map {V W : Type*} (g : V → W) (entries : List (K × V)) (key : K) :
    (entries.map fun entry => (entry.1, g entry.2)).lookup key = (entries.lookup key).map g := by
  induction entries with
  | nil => rfl
  | cons entry entries ih =>
    rw [List.map_cons, List.lookup_cons, List.lookup_cons, ih]
    cases key == entry.1 <;> rfl

omit [DecidableEq T] in
theorem getSetOrEmpty_toFinset (m : VecMap K (VecSet T)) (key : K) :
    (m.getSetOrEmpty key).toFinset = ((m.get key).map VecSet.toFinset).getD ∅ := by
  rw [VecMap.getSetOrEmpty, VecMap.getCloned_eq_get]
  cases m.get key <;> rfl

theorem get_build (b : SetMapBuild K T) (key : K) :
    (b.build.get key).map VecSet.toFinset = b.meaning key := by
  induction b generalizing key with
  | new => rfl
  | fromIter entries =>
    rw [build, VecMap.get_fromIter, ← List.map_reverse, lookup_map, Option.map_map]
    exact congrArg (Option.map · _) (funext SetBuild.toFinset_build)
  | insert m written set ih =>
    rw [build, meaning, VecMap.get_insert, Function.update_apply, apply_ite (Option.map VecSet.toFinset), ih,
      Option.map_some, SetBuild.toFinset_build]
  | remove m dropped ih =>
    rw [build, meaning, VecMap.get_remove, Function.update_apply, apply_ite (Option.map VecSet.toFinset), ih,
      Option.map_none]
  | insertInto m written elem ih =>
    rw [build, meaning, VecMap.get_insertInto, Function.update_apply, apply_ite (Option.map VecSet.toFinset),
      ih, Option.map_some, VecSet.toFinset_insert, getSetOrEmpty_toFinset, ih]
  | extendInto m written other ih =>
    rw [build, meaning, VecMap.get_extendInto, Function.update_apply, apply_ite (Option.map VecSet.toFinset),
      ih, Option.map_some, VecSet.toFinset_unionWith, getSetOrEmpty_toFinset, ih, SetBuild.toFinset_build]
  | removeFrom m written elem ih =>
    have erased : ∀ s : VecSet T, (s.remove elem).toFinset = s.toFinset.erase elem :=
      fun s => s.toFinset_remove elem
    rw [build, meaning, VecMap.get_removeFrom, Function.update_apply, apply_ite (Option.map VecSet.toFinset),
      ih, Option.map_map, ← ih written, Option.map_map]
    simp only [Function.comp_def, erased]

end SetMapBuild

/-- A map to sets answers for a partial function to finite sets. -/
structure VecMap.ImplementsSets (m : VecMap K (VecSet T)) (f : K → Option (Finset T)) : Prop
    extends m.Implements VecSet.toFinset f where
  setContains : ∀ key x, m.setContains key x = true ↔ ∃ S, f key = some S ∧ x ∈ S
  getSetOrEmpty : ∀ key, (m.getSetOrEmpty key).toFinset = (f key).getD ∅
  setNonempty : ∀ key, m.setNonempty key = true ↔ ∃ S, f key = some S ∧ S.Nonempty
  anyValueContains : ∀ x, m.anyValueContains x = true ↔ ∃ key S, f key = some S ∧ x ∈ S

omit [DecidableEq T] in
theorem exists_some_iff {o : Option (VecSet T)} {p : Finset T → Prop} :
    (∃ S, o.map VecSet.toFinset = some S ∧ p S) ↔ ∃ s, o = some s ∧ p s.toFinset := by
  cases o with
  | none => simp
  | some s => simp

theorem VecMap.implementsSets {m : VecMap K (VecSet T)} {f : K → Option (Finset T)}
    (agrees : ∀ key, (m.get key).map VecSet.toFinset = f key) : m.ImplementsSets f where
  toImplements := VecMap.implements agrees
  setContains key x := by
    rw [← agrees, exists_some_iff, VecMap.setContains_iff]
    exact VecMap.mem_getSetOrEmpty
  getSetOrEmpty key := by
    rw [SetMapBuild.getSetOrEmpty_toFinset, agrees]
  setNonempty key := by
    rw [← agrees, exists_some_iff, VecMap.setNonempty, VecMap.getCloned_eq_get]
    cases m.get key with
    | none => simp
    | some s =>
      have nonempty : (!s.isEmpty) = true ↔ s.toFinset.Nonempty := by
        rw [Bool.not_eq_true', ← Bool.not_eq_true, s.implements.isEmpty, Finset.nonempty_iff_ne_empty]
      simp [nonempty]
  anyValueContains x := by
    simp only [← agrees, exists_some_iff]
    rw [VecMap.anyValueContains, Scan.foldl_latch_true]
    simp only [Bool.false_eq_true, false_or, Prod.exists, VecSet.contains_iff, VecMap.get_eq_some]
    rfl

end SetMaps

/-- The vector collections implement finite sets and finite maps: whatever the operations, no key or
    element occurs twice and every answer is that of the mathematical set or map they give. -/
theorem collections_implement {K V T : Type*} [DecidableEq K] [DecidableEq T] :
    (∀ b : SetBuild T, b.build.Implements b.meaning) ∧
      (∀ b : MapBuild K V, b.build.Implements id b.meaning) ∧
      ∀ b : SetMapBuild K T, b.build.ImplementsSets b.meaning := by
  refine ⟨fun b => ?_, fun b => ?_, fun b => ?_⟩
  · rw [← b.toFinset_build]
    exact b.build.implements
  · refine VecMap.implements fun key => ?_
    rw [Option.map_id, id_eq, b.get_build]
  · exact VecMap.implementsSets b.get_build

end Argus
