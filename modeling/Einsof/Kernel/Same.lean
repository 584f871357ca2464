import Einsof.Kernel.Effects

namespace Argus

namespace VecSet

variable {T : Type*} {s t : VecSet T}

/-- The same members, whatever the order they were inserted in. -/
def Same (s t : VecSet T) : Prop := ∀ x, x ∈ s ↔ x ∈ t

theorem Same.refl (s : VecSet T) : s.Same s := fun _ => Iff.rfl

theorem Same.symm (same : s.Same t) : t.Same s := fun x => (same x).symm

theorem Same.trans {u : VecSet T} (same : s.Same t) (next : t.Same u) : s.Same u := fun x =>
  (same x).trans (next x)

theorem Same.perm (same : s.Same t) : s.items.Perm t.items :=
  (List.perm_ext_iff_of_nodup s.unique t.unique).mpr same

/-- Members that read alike are the same. -/
theorem same_of_map_perm {β : Type*} {f : T → β} (injective : Function.Injective f)
    (perm : (s.items.map f).Perm (t.items.map f)) : s.Same t := by
  intro x
  have read := perm.mem_iff (a := f x)
  rwa [List.mem_map_of_injective injective, List.mem_map_of_injective injective] at read

theorem Same.len (same : s.Same t) : s.len = t.len := same.perm.length_eq

theorem Same.isEmpty (same : s.Same t) : s.isEmpty = t.isEmpty := by
  rw [Bool.eq_iff_iff, isEmpty_iff, isEmpty_iff]
  exact forall_congr' fun x => not_congr (same x)

variable [DecidableEq T]

theorem Same.contains (same : s.Same t) (x : T) : s.contains x = t.contains x := by
  rw [Bool.eq_iff_iff, contains_iff, contains_iff]
  exact same x

theorem Same.insert (same : s.Same t) (x : T) : (s.insert x).Same (t.insert x) := fun y => by
  rw [mem_insert, mem_insert, same y]

theorem Same.remove (same : s.Same t) (x : T) : (s.remove x).Same (t.remove x) := fun y => by
  rw [mem_remove, mem_remove, same y]

theorem same_fromIter {xs ys : List T} (members : ∀ x, x ∈ xs ↔ x ∈ ys) :
    (fromIter xs).Same (fromIter ys) := fun x => by
  rw [mem_fromIter, mem_fromIter, members]

end VecSet

namespace VecMap

variable {K V W : Type*} [DecidableEq K] {R : V → W → Prop} {m : VecMap K V} {n : VecMap K W}

/-- The same keys, with related values, whatever the order of the entries. -/
def Same (R : V → W → Prop) (m : VecMap K V) (n : VecMap K W) : Prop :=
  ∀ key, Option.Rel R (m.get key) (n.get key)

theorem Same.refl {R : V → V → Prop} (reflexive : ∀ v, R v v) (m : VecMap K V) : m.Same R m := by
  intro key
  cases m.get key with
  | none => exact .none
  | some v => exact .some (reflexive v)

theorem Same.trans {R : V → V → Prop} {m n o : VecMap K V}
    (transitive : ∀ {u v w}, R u v → R v w → R u w) (same : m.Same R n) (next : n.Same R o) :
    m.Same R o := by
  intro key
  have first := same key
  have second := next key
  generalize m.get key = here, n.get key = there, o.get key = last at first second
  cases first with
  | none => exact second
  | some related =>
    cases second with
    | some related' => exact .some (transitive related related')

theorem Same.get_eq {m n : VecMap K V} (same : m.Same Eq n) (key : K) : m.get key = n.get key := by
  have related := same key
  cases held : m.get key <;> cases held' : n.get key <;> rw [held, held'] at related <;> cases related
  rename_i here
  exact congrArg some here

theorem Same.find (same : m.Same R n) {key : K} {v : V} (found : m.get key = some v) :
    ∃ w, n.get key = some w ∧ R v w := by
  have related := same key
  rw [found] at related
  cases held : n.get key with
  | none => rw [held] at related; cases related
  | some w =>
    rw [held, Option.rel_some_some] at related
    exact ⟨w, rfl, related⟩

theorem Same.flip (same : m.Same R n) : n.Same (fun w v => R v w) m := by
  intro key
  have related := same key
  cases held : m.get key <;> cases held' : n.get key <;> rw [held, held'] at related <;> cases related
  · exact .none
  · rename_i here
    exact .some here

theorem Same.containsKey (same : m.Same R n) (key : K) : m.containsKey key = n.containsKey key := by
  have related := same key
  rw [containsKey_eq, containsKey_eq]
  cases held : m.get key <;> cases held' : n.get key <;> rw [held, held'] at related <;>
    first | rfl | cases related

theorem Same.exists_iff (same : m.Same R n) {p : V → Prop} {q : W → Prop}
    (alike : ∀ v w, R v w → (p v ↔ q w)) :
    (∃ key v, m.get key = some v ∧ p v) ↔ ∃ key w, n.get key = some w ∧ q w := by
  constructor
  · intro facts
    rcases facts with ⟨key, v, found, holds⟩
    obtain ⟨w, found', related⟩ := same.find found
    exact ⟨key, w, found', (alike v w related).mp holds⟩
  · intro facts
    rcases facts with ⟨key, w, found, holds⟩
    obtain ⟨v, found', related⟩ := same.flip.find found
    exact ⟨key, v, found', (alike v w related).mpr holds⟩

theorem Same.insert (same : m.Same R n) (key : K) {v : V} {w : W} (related : R v w) :
    (m.insert key v).Same R (n.insert key w) := by
  intro other
  rw [get_insert, get_insert]
  split
  · exact .some related
  · exact same other

theorem Same.remove (same : m.Same R n) (key : K) : (m.remove key).Same R (n.remove key) := by
  intro other
  rw [get_remove, get_remove]
  split
  · exact .none
  · exact same other

omit [DecidableEq K] in
theorem nodup_keyed {β : Type*} (m : VecMap K V) (f : K → V → β) :
    (m.entries.map fun e => (e.1, f e.1 e.2)).Nodup := by
  apply List.Nodup.of_map Prod.fst
  simpa only [List.map_map, Function.comp_def] using m.unique

/-- Read off entry by entry, the two maps give the same list up to order. -/
theorem Same.map_perm {β : Type*} {f : K → V → β} {g : K → W → β} (same : m.Same R n)
    (alike : ∀ key v w, R v w → f key v = g key w) :
    (m.entries.map fun e => f e.1 e.2).Perm (n.entries.map fun e => g e.1 e.2) := by
  have keyed : (m.entries.map fun e => (e.1, f e.1 e.2)).Perm (n.entries.map fun e => (e.1, g e.1 e.2)) := by
    refine (List.perm_ext_iff_of_nodup (nodup_keyed m f) (nodup_keyed n g)).mpr fun pair => ?_
    simp only [List.mem_map, Prod.exists]
    constructor
    · intro facts
      rcases facts with ⟨key, v, member, rfl⟩
      obtain ⟨w, found, related⟩ := same.find (get_eq_some.mpr member)
      exact ⟨key, w, get_eq_some.mp found, by rw [alike key v w related]⟩
    · intro facts
      rcases facts with ⟨key, w, member, rfl⟩
      obtain ⟨v, found, related⟩ := same.flip.find (get_eq_some.mpr member)
      exact ⟨key, v, get_eq_some.mp found, by rw [alike key v w related]⟩
  have values := keyed.map Prod.snd
  rwa [List.map_map, List.map_map] at values

theorem find_of_read {κ β : Type*} {key : K → κ} (injective : Function.Injective key) {g : W → β} {k : K}
    {b : β} (read : (key k, b) ∈ n.entries.map fun e => (key e.1, g e.2)) :
    ∃ w, n.get k = some w ∧ g w = b := by
  obtain ⟨⟨k', w⟩, member, alike⟩ := List.mem_map.mp read
  obtain ⟨keys, values⟩ := Prod.mk.inj alike
  have same : k' = k := injective keys
  rw [same] at member
  exact ⟨w, get_eq_some.mpr member, values⟩

/-- Entries that read alike come from the same keys, with related values. -/
theorem same_of_map_perm {κ β : Type*} {key : K → κ} (injective : Function.Injective key) {f : V → β}
    {g : W → β} (tells : ∀ v w, f v = g w → R v w)
    (perm : (m.entries.map fun e => (key e.1, f e.2)).Perm (n.entries.map fun e => (key e.1, g e.2))) :
    m.Same R n := by
  intro k
  cases here : m.get k with
  | some v =>
    have read := List.mem_map_of_mem (f := fun e : K × V => (key e.1, f e.2)) (get_eq_some.mp here)
    obtain ⟨w, there, alike⟩ := find_of_read injective (g := g) (perm.mem_iff.mp read)
    rw [there]
    exact .some (tells v w alike.symm)
  | none =>
    cases there : n.get k with
    | none => exact .none
    | some w =>
      have read := List.mem_map_of_mem (f := fun e : K × W => (key e.1, g e.2)) (get_eq_some.mp there)
      obtain ⟨v, here', -⟩ := find_of_read injective (g := f) (perm.mem_iff.mpr read)
      rw [here] at here'
      cases here'

theorem Same.len (same : m.Same R n) : m.len = n.len := by
  have counted := (same.map_perm (f := fun _ _ => ()) (g := fun _ _ => ()) fun _ _ _ _ => rfl).length_eq
  rwa [List.length_map, List.length_map] at counted

section SetValued

variable {T : Type*} [DecidableEq T] {m n : VecMap K (VecSet T)}

omit [DecidableEq T] in
theorem Same.getSetOrEmpty (same : m.Same VecSet.Same n) (key : K) :
    (m.getSetOrEmpty key).Same (n.getSetOrEmpty key) := by
  intro x
  rw [mem_getSetOrEmpty, mem_getSetOrEmpty]
  constructor
  · intro facts
    rcases facts with ⟨held, found, member⟩
    obtain ⟨held', found', related⟩ := same.find found
    exact ⟨held', found', (related x).mp member⟩
  · intro facts
    rcases facts with ⟨held, found, member⟩
    obtain ⟨held', found', related⟩ := same.flip.find found
    exact ⟨held', found', (related x).mpr member⟩

theorem Same.setContains (same : m.Same VecSet.Same n) (key : K) (x : T) :
    m.setContains key x = n.setContains key x := by
  rw [Bool.eq_iff_iff, setContains_iff, setContains_iff]
  exact same.getSetOrEmpty key x

omit [DecidableEq T] in
theorem same_of_members (keys : ∀ key, m.containsKey key = n.containsKey key)
    (members : ∀ key, (m.getSetOrEmpty key).Same (n.getSetOrEmpty key)) : m.Same VecSet.Same n := by
  intro key
  have here := keys key
  have sets := members key
  rw [containsKey_eq, containsKey_eq] at here
  unfold VecSet.Same at sets
  simp only [mem_getSetOrEmpty] at sets
  cases held : m.get key <;> cases held' : n.get key <;> rw [held, held'] at here sets <;>
    first | exact .none | exact .some fun x => by simpa using sets x | cases here

theorem Same.insertInto (same : m.Same VecSet.Same n) (key : K) (x : T) :
    (m.insertInto key x).Same VecSet.Same (n.insertInto key x) := by
  intro other
  rw [get_insertInto, get_insertInto]
  split
  · exact .some ((same.getSetOrEmpty key).insert x)
  · exact same other

theorem containsKey_insertInto {key other : K} {x : T} : (m.insertInto key x).containsKey other = true ↔
    m.containsKey other = true ∨ other = key := by
  rw [containsKey_eq, containsKey_eq, get_insertInto]
  by_cases here : other = key <;> simp [here]

/-- Two elements may be added in either order. -/
theorem insertInto_comm (m : VecMap K (VecSet T)) (key other : K) (x y : T) :
    ((m.insertInto key x).insertInto other y).Same VecSet.Same
      ((m.insertInto other y).insertInto key x) := by
  refine same_of_members (fun here => ?_) fun here z => ?_
  · rw [Bool.eq_iff_iff, containsKey_insertInto, containsKey_insertInto, containsKey_insertInto,
      containsKey_insertInto, or_right_comm]
  · rw [mem_insertInto, mem_insertInto, mem_insertInto, mem_insertInto, or_right_comm]

theorem insertInto_if_comm {p q : Prop} [Decidable p] [Decidable q] (m : VecMap K (VecSet T))
    (key other : K) (x y : T) :
    (if q then (if p then m.insertInto key x else m).insertInto other y
      else if p then m.insertInto key x else m).Same VecSet.Same
    (if p then (if q then m.insertInto other y else m).insertInto key x
      else if q then m.insertInto other y else m) := by
  by_cases first : p <;> by_cases second : q <;> simp only [first, second, if_true, if_false]
  · exact insertInto_comm m key other x y
  all_goals exact .refl .refl _

theorem containsKey_foldl_insertInto (xs : List T) (m : VecMap K (VecSet T)) (key other : K) :
    (xs.foldl (fun acc x => acc.insertInto key x) m).containsKey other = true ↔
      m.containsKey other = true ∨ (other = key ∧ ∃ x, x ∈ xs) := by
  induction xs generalizing m with
  | nil => simp
  | cons x xs ih =>
    rw [List.foldl_cons, ih, containsKey_insertInto]
    by_cases here : other = key <;> simp [here]

/-- The elements of a set may be added in any order. -/
theorem Same.foldl_insertInto (same : m.Same VecSet.Same n) (key : K) {xs ys : List T}
    (members : ∀ x, x ∈ xs ↔ x ∈ ys) :
    (xs.foldl (fun acc x => acc.insertInto key x) m).Same VecSet.Same
      (ys.foldl (fun acc x => acc.insertInto key x) n) := by
  refine same_of_members (fun other => ?_) fun other x => ?_
  · rw [Bool.eq_iff_iff, containsKey_foldl_insertInto, containsKey_foldl_insertInto,
      same.containsKey other]
    simp only [members]
  · rw [mem_foldl_insertInto, mem_foldl_insertInto, same.getSetOrEmpty other x, members]

end SetValued

end VecMap

section Related

variable {V W V' W' : Type*} {R : V → W → Prop} {S : V' → W' → Prop} {o : Option V} {p : Option W}

theorem rel_refl (o : Option V) : Option.Rel Eq o o := by
  cases o with
  | none => exact .none
  | some v => exact .some rfl

theorem rel_filter {f : V → Bool} {g : W → Bool} (related : Option.Rel R o p)
    (alike : ∀ v w, R v w → f v = g w) : Option.Rel R (o.filter f) (p.filter g) := by
  cases related with
  | none => exact .none
  | some here =>
    rw [Option.filter_some, Option.filter_some, alike _ _ here]
    split
    · exact .some here
    · exact .none

theorem rel_map {f : V → V'} {g : W → W'} (related : Option.Rel R o p)
    (alike : ∀ v w, R v w → S (f v) (g w)) : Option.Rel S (o.map f) (p.map g) := by
  cases related with
  | none => exact .none
  | some here => exact .some (alike _ _ here)

end Related

structure ActionPolicySnapshot.Same (p q : ActionPolicySnapshot) : Prop where
  tool : p.tool = q.tool
  requiredCaps : p.requiredCaps.Same q.requiredCaps
  confClearance : p.confClearance = q.confClearance
  integFloor : p.integFloor = q.integFloor
  integInspect : p.integInspect = q.integInspect
  outputConf : p.outputConf = q.outputConf
  outputInteg : p.outputInteg = q.outputInteg
  declaredEgress : p.declaredEgress.Same q.declaredEgress
  policyDigest : p.policyDigest = q.policyDigest

theorem ActionPolicySnapshot.Same.refl (p : ActionPolicySnapshot) : p.Same p :=
  ⟨rfl, .refl _, rfl, rfl, rfl, rfl, rfl, .refl _, rfl⟩

theorem ActionPolicySnapshot.Same.symm {p q : ActionPolicySnapshot} (same : p.Same q) : q.Same p :=
  ⟨same.tool.symm, same.requiredCaps.symm, same.confClearance.symm, same.integFloor.symm,
    same.integInspect.symm, same.outputConf.symm, same.outputInteg.symm, same.declaredEgress.symm,
    same.policyDigest.symm⟩

theorem ActionPolicySnapshot.Same.trans {p q r : ActionPolicySnapshot} (same : p.Same q)
    (next : q.Same r) : p.Same r :=
  ⟨same.tool.trans next.tool, same.requiredCaps.trans next.requiredCaps,
    same.confClearance.trans next.confClearance, same.integFloor.trans next.integFloor,
    same.integInspect.trans next.integInspect, same.outputConf.trans next.outputConf,
    same.outputInteg.trans next.outputInteg, same.declaredEgress.trans next.declaredEgress,
    same.policyDigest.trans next.policyDigest⟩

structure PendingInvocation.Same (j k : PendingInvocation) : Prop where
  agent : j.agent = k.agent
  policy : j.policy.Same k.policy
  egress : j.egress.Same k.egress
  admission : j.admission = k.admission
  disposition : j.disposition = k.disposition
  authorized : j.authorized = k.authorized
  quarantined : j.quarantined = k.quarantined

theorem PendingInvocation.Same.refl (j : PendingInvocation) : j.Same j :=
  ⟨rfl, .refl _, .refl _, rfl, rfl, rfl, rfl⟩

theorem PendingInvocation.Same.symm {j k : PendingInvocation} (same : j.Same k) : k.Same j :=
  ⟨same.agent.symm, same.policy.symm, same.egress.symm, same.admission.symm, same.disposition.symm,
    same.authorized.symm, same.quarantined.symm⟩

theorem PendingInvocation.Same.trans {i j k : PendingInvocation} (same : i.Same j) (next : j.Same k) :
    i.Same k :=
  ⟨same.agent.trans next.agent, same.policy.trans next.policy, same.egress.trans next.egress,
    same.admission.trans next.admission, same.disposition.trans next.disposition,
    same.authorized.trans next.authorized, same.quarantined.trans next.quarantined⟩

theorem PendingInvocation.Same.vouched {j k : PendingInvocation} (same : j.Same k) :
    j.vouched = k.vouched := by
  unfold PendingInvocation.vouched
  rw [same.admission]

structure ChallengeScope.Same (x y : ChallengeScope) : Prop where
  challenge : x.challenge = y.challenge
  agent : x.agent = y.agent
  policy : x.policy.Same y.policy
  egress : x.egress.Same y.egress
  argsHash : x.argsHash = y.argsHash
  authorized : x.authorized = y.authorized

theorem ChallengeScope.Same.trans {x y z : ChallengeScope} (same : x.Same y) (next : y.Same z) :
    x.Same z :=
  ⟨same.challenge.trans next.challenge, same.agent.trans next.agent, same.policy.trans next.policy,
    same.egress.trans next.egress, same.argsHash.trans next.argsHash,
    same.authorized.trans next.authorized⟩

end Argus
