import Mathlib.Data.Finset.Card
import Mathlib.Data.Finset.Dedup
import Mathlib.Tactic.Common

/-! Untyped terms as a dynamic language passes them, and checks that name the place they refuse. -/

namespace Erlang

inductive Key
  | atom (name : String)
  | other (n : Nat)
  deriving DecidableEq

/-- A term. Maps are extensional: equal when they hold the same keys with the same values. -/
inductive Term
  | atom (name : String)
  | integer (n : Int)
  | binary (bytes : ByteArray)
  | empty
  | cons (head tail : Term)
  | map (keys : Finset Key) (values : {k // k ∈ keys} → Term)
  | reference (n : Nat)
  | other (n : Nat)

/-- One step into a term: under a key of a map, or to a member of a list. -/
inductive Place
  | field (name : String)
  | index (i : Nat)
  deriving DecidableEq

namespace Term

def field : Term → String → Option Term
  | .map keys values, name => if held : .atom name ∈ keys then some (values ⟨.atom name, held⟩) else none
  | _, _ => none

/-- `map.name`, for a key that is there. -/
def get (t : Term) (name : String) : Term := (t.field name).getD (.atom "nil")

def member : Term → Nat → Option Term
  | .cons head _, 0 => some head
  | .cons _ tail, i + 1 => tail.member i
  | _, _ => none

/-- The term at a place inside another. -/
def at? : Term → List Place → Option Term
  | t, [] => some t
  | t, .field name :: rest => (t.field name).bind (·.at? rest)
  | t, .index i :: rest => (t.member i).bind (·.at? rest)
termination_by _ path => path.length

def ofList : List Term → Term
  | [] => .empty
  | t :: ts => .cons t (ofList ts)

/-- The map with these names as its keys. -/
def object (names : List String) (value : String → Term) : Term :=
  .map (names.map Key.atom).toFinset fun k =>
    match k.val with
    | .atom name => value name
    | .other _ => .atom "nil"

/-- A struct: a map that names its module. -/
def struct (module : String) (fields : List (String × Term)) : Term :=
  object ("__struct__" :: fields.map Prod.fst) fun name =>
    (List.lookup name (("__struct__", .atom module) :: fields)).getD (.atom "nil")

def isNil : Term → Bool
  | .atom name => name = "nil"
  | _ => false

def isStruct (module : String) (t : Term) : Bool :=
  match t.field "__struct__" with
  | some (.atom name) => name = module
  | _ => false

/-- `map_size(value) == length(expected) and Enum.all?(expected, &Map.has_key?(value, &1))`. -/
def exactKeys (expected : List String) : Term → Bool
  | .map keys _ => keys.card = expected.length ∧ ∀ name ∈ expected, .atom name ∈ keys
  | _ => false

variable {names : List String} {value value' : String → Term} {name module : String}

@[simp] theorem field_object : (object names value).field name =
    if name ∈ names then some (value name) else none := by
  simp [field, object]

theorem object_congr (same : ∀ name ∈ names, value name = value' name) :
    object names value = object names value' := by
  unfold object
  congr 1
  funext k
  obtain ⟨k, held⟩ := k
  simp only [List.mem_toFinset, List.mem_map] at held
  obtain ⟨name, listed, rfl⟩ := held
  exact same name listed

theorem isStruct_iff {t : Term} : t.isStruct module = true ↔ t.field "__struct__" = some (.atom module) := by
  unfold isStruct
  split
  · rename_i found
    rw [found, decide_eq_true_eq, Option.some.injEq, Term.atom.injEq]
  · rename_i other
    exact ⟨nofun, fun found => absurd found (other _)⟩

theorem exactKeys_iff {t : Term} (distinct : names.Nodup) :
    t.exactKeys names = true ↔ t = object names t.get := by
  cases t with
  | map keys values =>
    have injective : Function.Injective Key.atom := fun _ _ same => by cases same; rfl
    have size : (names.map Key.atom).toFinset.card = names.length := by
      rw [List.toFinset_card_of_nodup (distinct.map injective), List.length_map]
    simp only [exactKeys, decide_eq_true_eq]
    constructor
    · intro exact
      have all : (names.map Key.atom).toFinset = keys := by
        apply Finset.eq_of_subset_of_card_le
        · intro k listed
          simp only [List.mem_toFinset, List.mem_map] at listed
          obtain ⟨name, member, rfl⟩ := listed
          exact exact.2 name member
        · rw [size, exact.1]
      subst all
      unfold object
      congr 1
      funext k
      obtain ⟨k, held⟩ := k
      have listed := held
      simp only [List.mem_toFinset, List.mem_map] at listed
      obtain ⟨name, -, rfl⟩ := listed
      simp [get, field, held]
    · intro same
      unfold object at same
      injection same with keyed
      rw [keyed]
      refine ⟨size, fun name member => ?_⟩
      rw [List.mem_toFinset]
      exact List.mem_map_of_mem member
  | _ => simp [exactKeys, object]

theorem exactKeys_object (distinct : names.Nodup) : (object names value).exactKeys names = true := by
  rw [exactKeys_iff distinct]
  apply object_congr
  intro name listed
  simp only [get, field_object, if_pos listed, Option.getD_some]

theorem field_of_exactKeys {t : Term} (exact : t.exactKeys names = true) (listed : name ∈ names) :
    t.field name = some (t.get name) := by
  cases t with
  | map keys values =>
    have held : Key.atom name ∈ keys := by
      simp only [exactKeys, decide_eq_true_eq] at exact
      exact exact.2 name listed
    simp [get, field, held]
  | _ => simp [exactKeys] at exact

theorem map_lookup_zip {values : List Term} (default : Term) (distinct : names.Nodup)
    (size : values.length = names.length) :
    names.map (fun name => (List.lookup name (names.zip values)).getD default) = values := by
  induction names generalizing values with
  | nil => exact (List.length_eq_zero_iff.mp size).symm
  | cons name names ih =>
    obtain ⟨absent, distinct⟩ := List.nodup_cons.mp distinct
    obtain ⟨value, values, rfl⟩ := List.exists_cons_of_length_eq_add_one size
    rw [List.zip_cons_cons, List.map_cons, List.lookup_cons_self, Option.getD_some]
    congr 1
    refine (List.map_congr_left fun other listed => ?_).trans (ih distinct (Nat.succ.inj size))
    have apart : other ≠ name := fun same => absent (same ▸ listed)
    rw [List.lookup_cons, beq_eq_false_iff_ne.mpr apart]

theorem lookup_zip_map {f : String → Term} (listed : name ∈ names) :
    List.lookup name (names.zip (names.map f)) = some (f name) := by
  induction names with
  | nil => cases listed
  | cons first names ih =>
    rw [List.map_cons, List.zip_cons_cons, List.lookup_cons]
    by_cases same : name = first
    · rw [same, beq_self_eq_true]
    · rw [beq_eq_false_iff_ne.mpr same]
      exact ih ((List.mem_cons.mp listed).resolve_left same)

theorem isStruct_struct (fields : List (String × Term)) (module' : String) :
    (struct module fields).isStruct module' = decide (module = module') := by
  simp [isStruct, struct]

@[simp] theorem isNil_struct (fields : List (String × Term)) : (struct module fields).isNil = false := rfl

theorem get_struct (module : String) (fields : List (String × Term)) (name : String) :
    (struct module fields).get name =
      (List.lookup name (("__struct__", .atom module) :: fields)).getD (.atom "nil") := by
  rw [get, struct, field_object]
  by_cases listed : name ∈ "__struct__" :: fields.map Prod.fst
  · rw [if_pos listed, Option.getD_some]
  · rw [if_neg listed, List.lookup_eq_none_iff.mpr]
    intro entry member
    have key := List.mem_map_of_mem (f := Prod.fst) member
    exact bne_iff_ne.mpr fun same => listed (same ▸ key)

section Struct

variable {values : List Term}

theorem exactKeys_struct (module : String) (distinct : ("__struct__" :: names).Nodup)
    (size : values.length = names.length) :
    (struct module (names.zip values)).exactKeys ("__struct__" :: names) = true := by
  have shape : (names.zip values).map Prod.fst = names := List.map_fst_zip (le_of_eq size.symm)
  rw [struct, shape]
  exact exactKeys_object distinct

theorem map_get_struct (module : String) (distinct : ("__struct__" :: names).Nodup)
    (size : values.length = names.length) :
    names.map (struct module (names.zip values)).get = values := by
  have shape : (names.zip values).map Prod.fst = names := List.map_fst_zip (le_of_eq size.symm)
  obtain ⟨plain, distinct⟩ := List.nodup_cons.mp distinct
  refine (List.map_congr_left fun name listed => ?_).trans
    (map_lookup_zip (.atom "nil") distinct size)
  have apart : name ≠ "__struct__" := fun same => plain (same ▸ listed)
  rw [get, struct, shape, field_object, if_pos (List.mem_cons_of_mem _ listed), Option.getD_some,
    List.lookup_cons, beq_eq_false_iff_ne.mpr apart]

theorem eq_struct {t : Term} (distinct : ("__struct__" :: names).Nodup) (tagged : t.isStruct module = true)
    (exact : t.exactKeys ("__struct__" :: names) = true) :
    t = struct module (names.zip (names.map t.get)) := by
  have size : (names.map t.get).length = names.length := List.length_map _
  have shape : (names.zip (names.map t.get)).map Prod.fst = names := List.map_fst_zip (le_of_eq size.symm)
  refine ((exactKeys_iff distinct).mp exact).trans ?_
  rw [struct, shape]
  apply object_congr
  intro name listed
  rcases List.mem_cons.mp listed with rfl | member
  · unfold isStruct at tagged
    split at tagged
    · rename_i found
      simp only [decide_eq_true_eq] at tagged
      rw [get, found, tagged, List.lookup_cons_self]
    · cases tagged
  · have apart : name ≠ "__struct__" := fun same => (List.nodup_cons.mp distinct).1 (same ▸ member)
    rw [List.lookup_cons, beq_eq_false_iff_ne.mpr apart, lookup_zip_map member, Option.getD_some]

/-- Equal structs name the same module. -/
theorem struct_tag {module' : String} {given given' : List (String × Term)}
    (same : struct module given = struct module' given') : module = module' := by
  have tag := @isStruct_struct module given module'
  rw [same, isStruct_struct, decide_eq_decide] at tag
  exact tag.mp rfl

theorem struct_injective {module' : String} {given given' : List (String × Term)}
    (same : struct module given = struct module' given')
    (named : given.map Prod.fst = given'.map Prod.fst)
    (distinct : ("__struct__" :: given.map Prod.fst).Nodup) : given = given' := by
  have read : ∀ (m : String) (g : List (String × Term)), g.map Prod.fst = given.map Prod.fst →
      g = (given.map Prod.fst).zip ((given.map Prod.fst).map (struct m g).get) := by
    intro m g names
    have size : (g.map Prod.snd).length = (given.map Prod.fst).length := by
      rw [← names, List.length_map, List.length_map]
    have shape : g = (given.map Prod.fst).zip (g.map Prod.snd) := List.zip_of_prod names rfl
    have got := map_get_struct m distinct size
    rw [← shape] at got
    rwa [got]
  rw [read module given rfl, same, ← read module' given' named.symm]

end Struct

end Term

/-- A check of the term at a path: the term, normalized, or an error. -/
abbrev Check (ε : Type*) := Term → List Place → Except ε Term

namespace Check

variable {ε : Type*}

/-- `nil`, or a term that passes. -/
def optional (check : Check ε) : Check ε := fun value path =>
  if value.isNil then .ok value else check value path

/-- The checks of a struct's fields, one after the other. -/
def fields : List (String × Check ε) → List Term → List Place → Except ε (List Term)
  | (name, check) :: checks, value :: values, path => do
    let normal ← check value (path ++ [.field name])
    let rest ← fields checks values path
    return normal :: rest
  | _, _, _ => .ok []

/-- A struct with exactly these fields, each of which passes its check. -/
def record (misfit strange : List Place → ε) (module : String) (checks : List (String × Check ε)) :
    Check ε := fun value path =>
  if value.isStruct module then
    if value.exactKeys ("__struct__" :: checks.map Prod.fst) then
      (fields checks (checks.map fun entry => value.get entry.1) path).map fun normal =>
        .struct module ((checks.map Prod.fst).zip normal)
    else .error (strange path)
  else .error (misfit path)

section Record

variable {misfit strange : List Place → ε} {module : String} {checks : List (String × Check ε)}
  {path : List Place}

theorem fields_nil : fields ([] : List (String × Check ε)) [] path = pure [] := rfl

theorem fields_cons {name : String} {check : Check ε} {value : Term} {values : List Term} :
    fields ((name, check) :: checks) (value :: values) path = (do
      let normal ← check value (path ++ [.field name])
      let rest ← fields checks values path
      return normal :: rest) := rfl

/-- A struct's term passes as its fields do. -/
theorem record_struct {given : List (String × Term)} (distinct : ("__struct__" :: checks.map Prod.fst).Nodup)
    (named : given.map Prod.fst = checks.map Prod.fst) :
    record misfit strange module checks (.struct module given) path = (do
      let normal ← fields checks (given.map Prod.snd) path
      return .struct module ((checks.map Prod.fst).zip normal)) := by
  have size : (given.map Prod.snd).length = (checks.map Prod.fst).length := by
    rw [← named, List.length_map, List.length_map]
  have shape : given = (checks.map Prod.fst).zip (given.map Prod.snd) := by
    rw [← named]
    exact List.zip_of_prod rfl rfl
  have read := Term.map_get_struct module distinct size
  have exact := Term.exactKeys_struct module distinct size
  rw [List.map_map, ← shape] at read
  rw [← shape] at exact
  simp only [record, Term.isStruct_struct, exact, decide_true, if_true]
  change (checks.map fun entry => (Term.struct module given).get entry.1) = _ at read
  rw [read]
  cases fields checks (given.map Prod.snd) path <;> rfl

end Record

/-- The check accepts terms of these values only. -/
def Only {α : Type*} (term : α → Term) (check : Check ε) : Prop :=
  ∀ t path t', check t path = .ok t' → ∃ a, t = term a

/-- The checks accept terms of these values only, one term for each check. -/
def Forms {α : Type*} (checks : List (String × Check ε)) (terms : α → List Term) : Prop :=
  ∀ values path normal, values.length = checks.length → fields checks values path = .ok normal →
    ∃ a, values = terms a

section Forms

variable {α β : Type*} {term : α → Term} {terms : β → List Term} {check : Check ε} {name module : String}
  {checks : List (String × Check ε)} {misfit strange : List Place → ε}

theorem Forms.nil : Forms ([] : List (String × Check ε)) fun _ : Unit => [] :=
  fun _ _ _ size _ => ⟨(), List.length_eq_zero_iff.mp size⟩

theorem Only.cons (only : Only term check) (forms : Forms checks terms) :
    Forms ((name, check) :: checks) fun a : α × β => term a.1 :: terms a.2 := by
  intro values path normal size passed
  obtain ⟨value, values, rfl⟩ := List.exists_cons_of_length_eq_add_one size
  rw [fields_cons] at passed
  cases first : check value (path ++ [.field name]) with
  | error e =>
    rw [first] at passed
    cases passed
  | ok v =>
    cases others : fields checks values path with
    | error e =>
      rw [first, others] at passed
      cases passed
    | ok rest =>
      obtain ⟨a, rfl⟩ := only _ _ _ first
      obtain ⟨b, rfl⟩ := forms _ _ _ (Nat.succ.inj size) others
      exact ⟨(a, b), rfl⟩

theorem Forms.record (forms : Forms checks terms) (distinct : ("__struct__" :: checks.map Prod.fst).Nodup) :
    Only (fun b => .struct module ((checks.map Prod.fst).zip (terms b)))
      (record misfit strange module checks) := by
  intro t path t' passed
  unfold Check.record at passed
  split at passed
  · rename_i tagged
    split at passed
    · rename_i exact
      have shape := Term.eq_struct distinct tagged exact
      rw [List.map_map] at shape
      cases normal : fields checks (checks.map fun entry => t.get entry.1) path with
      | error e =>
        rw [normal] at passed
        cases passed
      | ok rest =>
        obtain ⟨b, same⟩ := forms _ _ _ (List.length_map _) normal
        change checks.map (t.get ∘ Prod.fst) = _ at same
        exact ⟨b, by rw [shape, same]⟩
    · cases passed
  · cases passed

end Forms

/-- Every error of the check names a place of the term, and the term there has the fault that belongs to
    the place. -/
def Located (where? : ε → List Place) (fault : List Place → ε → Term → Prop) (check : Check ε) : Prop :=
  ∀ t path e, check t path = .error e →
    ∃ rest u, where? e = path ++ rest ∧ t.at? rest = some u ∧ fault rest e u

section Located

variable {where? : ε → List Place} {fault : List Place → ε → Term → Prop} {check : Check ε}
  {misfit strange : List Place → ε} {module : String} {checks : List (String × Check ε)}

/-- A check that only refuses the term as a whole. -/
theorem located_whole (whole : ∀ t path e, check t path = .error e → where? e = path ∧ fault [] e t) :
    Located where? fault check := by
  intro t path e refused
  obtain ⟨place, faulty⟩ := whole t path e refused
  exact ⟨[], t, by rw [place, List.append_nil], by rw [Term.at?], faulty⟩

theorem Located.optional (located : Located where? fault check) :
    Located where? (fun rest e u => (rest = [] → u.isNil = false) ∧ fault rest e u) (optional check) := by
  intro t path e refused
  unfold Check.optional at refused
  split at refused
  · cases refused
  · rename_i present
    obtain ⟨rest, u, place, found, faulty⟩ := located t path e refused
    refine ⟨rest, u, place, found, ?_, faulty⟩
    rintro rfl
    rw [Term.at?, Option.some.injEq] at found
    rwa [← found, ← Bool.not_eq_true]

theorem located_fields {t : Term} {path : List Place} {e : ε}
    (all : ∀ entry ∈ checks, Located where? (fun rest => fault (.field entry.1 :: rest)) entry.2)
    (refused : fields checks (checks.map fun entry => t.get entry.1) path = .error e) :
    ∃ entry ∈ checks, ∃ rest u, where? e = path ++ .field entry.1 :: rest ∧
      (t.get entry.1).at? rest = some u ∧ fault (.field entry.1 :: rest) e u := by
  induction checks with
  | nil => cases refused
  | cons entry checks ih =>
    rw [List.map_cons, fields] at refused
    cases first : entry.2 (t.get entry.1) (path ++ [.field entry.1]) with
    | error e' =>
      rw [first] at refused
      cases refused
      obtain ⟨rest, u, place, found⟩ := all entry List.mem_cons_self _ _ _ first
      rw [List.append_assoc, List.singleton_append] at place
      exact ⟨entry, List.mem_cons_self, rest, u, place, found⟩
    | ok v =>
      cases others : fields checks (checks.map fun entry => t.get entry.1) path with
      | error e' =>
        rw [first, others] at refused
        cases refused
        obtain ⟨entry', member, found⟩ := ih (fun entry' member => all _ (List.mem_cons_of_mem _ member)) others
        exact ⟨entry', List.mem_cons_of_mem _ member, found⟩
      | ok rest =>
        rw [first, others] at refused
        cases refused

theorem located_record
    (misfits : ∀ t path, t.isStruct module = false → where? (misfit path) = path ∧ fault [] (misfit path) t)
    (stranges : ∀ t path, t.isStruct module = true →
      t.exactKeys ("__struct__" :: checks.map Prod.fst) = false →
        where? (strange path) = path ∧ fault [] (strange path) t)
    (all : ∀ entry ∈ checks, Located where? (fun rest => fault (.field entry.1 :: rest)) entry.2) :
    Located where? fault (record misfit strange module checks) := by
  intro t path e refused
  unfold record at refused
  split at refused
  · rename_i tagged
    split at refused
    · rename_i exact
      cases checked : fields checks (checks.map fun entry => t.get entry.1) path with
      | ok normal =>
        rw [checked] at refused
        cases refused
      | error e' =>
        rw [checked] at refused
        cases refused
        obtain ⟨entry, member, rest, u, place, there, faulty⟩ := located_fields all checked
        have found := Term.field_of_exactKeys exact
          (List.mem_cons_of_mem _ (List.mem_map_of_mem (f := Prod.fst) member))
        exact ⟨_, u, place, by rw [Term.at?, found, Option.bind_some, there], faulty⟩
    · rename_i inexact
      cases refused
      obtain ⟨place, faulty⟩ := stranges t path tagged (Bool.not_eq_true _ ▸ inexact)
      exact ⟨[], t, by rw [place, List.append_nil], by rw [Term.at?], faulty⟩
  · rename_i other
    cases refused
    obtain ⟨place, faulty⟩ := misfits t path (Bool.not_eq_true _ ▸ other)
    exact ⟨[], t, by rw [place, List.append_nil], by rw [Term.at?], faulty⟩

end Located

end Check

end Erlang
