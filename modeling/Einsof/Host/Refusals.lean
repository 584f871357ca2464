import Einsof.Host.Acceptance

namespace ExArgus

open Argus Erlang Erlang.Check Fallible

/-- What a term has to be: text, one of some atoms, a boolean, a number of 32 bits, a list of some atoms
    that has a greatest length and no repetition, a map of ceilings, or a struct. -/
inductive Shape
  | text
  | oneOf (allowed : List String)
  | flag
  | u32
  | setOf (allowed : List String) (maximum : Nat)
  | ceilings
  | record (module : String) (fields : List (String × Shape))
  | optional (shape : Shape)

namespace Shape

/-- What is to be one step inside a term of the shape. -/
def inside : Shape → Place → Option Shape
  | .setOf allowed _, .index _ => some (.oneOf allowed)
  | .ceilings, .field name =>
    if name ∈ Terms.egressKinds then some (.optional (.oneOf Terms.confLevels)) else none
  | .record _ fields, .field name => fields.lookup name
  | .optional shape, place => shape.inside place
  | _, _ => none

/-- What is to be at a place inside a term of the shape. -/
def at? : Shape → List Place → Option Shape
  | shape, [] => some shape
  | shape, place :: rest => (shape.inside place).bind (·.at? rest)

/-- The fault that a reason tells of a term that was to have the shape. -/
def Faulty : Shape → Reason → Term → Prop
  | .text, .invalidType, t => ∀ bytes, t ≠ .binary bytes
  | .text, .emptyValue, t => ∃ bytes, t = .binary bytes ∧ bytes.size = 0
  | .text, .valueTooLarge, t => ∃ bytes, t = .binary bytes ∧ 1024 < bytes.size
  | .text, .invalidUtf8, t => ∃ bytes, t = .binary bytes ∧ ¬ bytes.IsValidUTF8
  | .oneOf allowed, .unknownEnum, t => ∀ name ∈ allowed, t ≠ .atom name
  | .flag, .invalidType, t => t ≠ .atom "true" ∧ t ≠ .atom "false"
  | .u32, .integerOutOfRange, t => ∀ n : UInt32, t ≠ .integer n.toNat
  | .setOf _ _, .invalidType, t => ∀ members, t ≠ .ofList members
  | .setOf _ maximum, .capacityExceeded, t => ∃ u, t.member maximum = some u
  | .setOf _ _, .duplicateValue, t => ∃ i j u, i < j ∧ t.member i = some u ∧ t.member j = some u
  | .ceilings, .invalidType, t => ∀ keys values, t ≠ .map keys values
  | .ceilings, .invalidKeys, t => ∀ value, t ≠ .object Terms.egressKinds value
  | .record module _, .invalidStruct, t => t.field "__struct__" ≠ some (.atom module)
  | .record module fields, .invalidKeys, t => t.field "__struct__" = some (.atom module) ∧
      ∀ value, t ≠ .object ("__struct__" :: fields.map Prod.fst) value
  | .optional shape, reason, t => t ≠ .atom "nil" ∧ shape.Faulty reason t
  | _, _, _ => False

/-- The fault that a refusal tells of a term at a place inside one that was to have the shape. -/
def FaultyAt (shape : Shape) (rest : List Place) (e : Refusal) (u : Term) : Prop :=
  e = boundaryError e.reason e.path ∧ ∃ expected, shape.at? rest = some expected ∧ expected.Faulty e.reason u

/-- The refusal's path leads to a place inside the term, and the term there has the fault that the reason
    tells of what was to be there. -/
def Blames (shape : Shape) (t : Term) (path : List Place) (e : Refusal) : Prop :=
  ∃ rest u, e.path = path ++ rest ∧ t.at? rest = some u ∧ shape.FaultyAt rest e u

/-- The term is a struct of none of the shapes, or it is of one, and the refusal blames something in it. -/
def BlamesOne (shapes : CommandName → Shape) (t : Term) (path : List Place) (e : Refusal) : Prop :=
  (e = boundaryError .invalidStruct path ∧ ∀ name, (shapes name).Faulty .invalidStruct t) ∨
    ∃ name, ¬ (shapes name).Faulty .invalidStruct t ∧ (shapes name).Blames t path e

end Shape

theorem CommandName.mem_all (name : CommandName) : name ∈ CommandName.all := by
  cases name <;> decide

namespace Terms

def policyShape : Shape := .record "Elixir.ExArgus.Kernel.Types.ActionPolicySnapshot"
  [("tool", .text), ("required_caps", .setOf capabilities 15), ("conf_clearance", .oneOf confLevels),
    ("integ_floor", .oneOf integLevels), ("integ_inspect", .oneOf integLevels),
    ("output_conf", .oneOf confLevels), ("output_integ", .oneOf integLevels),
    ("declared_egress", .setOf egressKinds 4), ("policy_digest", .text)]

def inspectionShape : Shape := .record "Elixir.ExArgus.Kernel.Types.InspectionAttestation"
  [("id", .text), ("inv", .text), ("challenge", .text), ("args_hash", .text), ("policy_digest", .text),
    ("positive", .flag)]

def resolutionShape : Shape := .optional <| .record "Elixir.ExArgus.Kernel.Types.ResolutionAttestation"
  [("id", .text), ("inv", .text), ("outcome", .oneOf outcomes)]

def evidenceShape : Shape := .optional <| .record "Elixir.ExArgus.Kernel.Types.ConformanceAttestation"
  [("id", .text), ("output", .text), ("src", .text), ("rcv", .text), ("descriptor", .text),
    ("assignment", .text), ("positive", .flag)]

def crossShape : Shape := .record "Elixir.ExArgus.Kernel.Types.CrossInput"
  [("src", .text), ("rcv", .text), ("crossing", .text), ("output_hash", .text), ("descriptor", .text),
    ("fallback", .oneOf ["fail", "release_unendorsed"]), ("t_integ", .oneOf integLevels),
    ("t_conf", .optional (.oneOf confLevels)), ("assignment", .text), ("evidence", evidenceShape),
    ("released_conf", .oneOf confLevels), ("released_integ", .oneOf integLevels)]

def commandParts : CommandName → List (String × Shape)
  | .registerTool => [("tool", .text)]
  | .unregisterTool => [("tool", .text)]
  | .delegate => [("grantor", .text), ("grantee", .text)]
  | .grantCapability => [("parent", .text), ("child", .text), ("cap", .oneOf capabilities)]
  | .grantCrossing => [("grantor", .text), ("agent", .text), ("assignment", .text), ("n", .u32)]
  | .revoke => [("parent", .text), ("target", .text)]
  | .cascadeRevoke => [("child", .text), ("parent", .text)]
  | .ingest => [("agent", .text), ("src", .optional .text), ("pconf", .oneOf confLevels),
      ("pinteg", .oneOf integLevels)]
  | .beginInvocation => [("agent", .text), ("inv", .text), ("challenge", .text), ("policy", policyShape),
      ("egress", .setOf egressKinds 4), ("args_hash", .text), ("authorized", .flag)]
  | .authorizeInspected => [("inv", .text), ("attestation", inspectionShape)]
  | .settleInvocation => [("inv", .text), ("outcome", .oneOf outcomes), ("resolution", resolutionShape)]
  | .crossOutput => [("input", crossShape)]

def commandShape (name : CommandName) : Shape := .record (commandModule name) (commandParts name)

/-- The settlement of a quarantined invocation, which decides it. -/
def quarantineShape : Shape := .record (commandModule .settleInvocation)
  [("inv", .text), ("outcome", .oneOf ["success", "failure"]), ("resolution", resolutionShape)]

def actionParts : CommandName → List (String × Shape)
  | .registerTool => [("tool", .text)]
  | .unregisterTool => [("tool", .text)]
  | .delegate => [("grantor", .text), ("grantee", .text)]
  | .grantCapability => [("parent", .text), ("child", .text), ("cap", .oneOf capabilities)]
  | .grantCrossing => [("grantor", .text), ("agent", .text), ("assignment", .text), ("n", .u32)]
  | .revoke => [("parent", .text), ("target", .text)]
  | .cascadeRevoke => [("child", .text), ("parent", .text)]
  | .ingest => [("agent", .text), ("src", .optional .text), ("pconf", .oneOf confLevels),
      ("pinteg", .oneOf integLevels), ("disposition", .oneOf dispositions)]
  | .beginInvocation => [("agent", .text), ("inv", .text), ("tool", .text),
      ("verdict", .oneOf ["allow", "inspection_required", "deny"]), ("authorized", .flag)]
  | .authorizeInspected => [("inv", .text), ("attestation", .text), ("admitted", .flag)]
  | .settleInvocation => [("inv", .text), ("agent", .text), ("disposition", .oneOf dispositions),
      ("outcome", .oneOf outcomes), ("clvl", .oneOf confLevels), ("ilvl", .oneOf integLevels),
      ("resolution", .optional .text)]
  | .crossOutput => [("src", .text), ("rcv", .text), ("crossing", .text),
      ("branch", .oneOf ["endorsed", "unendorsed", "fail"]), ("disposition", .oneOf dispositions)]

def actionShape (name : CommandName) : Shape := .record (actionModule name) (actionParts name)

def backgroundShape : Shape := .record "Elixir.ExArgus.Kernel.Background"
  [("mode", .oneOf ["enforce", "monitor"]), ("allow_ceiling", .ceilings), ("inspect_ceiling", .ceilings)]

section Located

variable {check : Check Refusal} {shape : Shape} {allowed allowed' : List String} {module : String}
  {checks : List (String × Check Refusal)} {parts : List (String × Shape)} {t : Term} {path : List Place}

theorem located_leaf (whole : ∀ t path e, check t path = .error e →
    ∃ reason, e = boundaryError reason path ∧ shape.Faulty reason t) :
    Located Refusal.path shape.FaultyAt check := by
  refine located_whole fun t path e refused => ?_
  obtain ⟨reason, rfl, faulty⟩ := whole t path e refused
  exact ⟨rfl, rfl, shape, rfl, faulty⟩

theorem located_text : Located Refusal.path (Shape.FaultyAt .text) checkOpaque := by
  refine located_leaf fun t path e refused => ?_
  cases t with
  | binary bytes =>
    simp only [checkOpaque] at refused
    split_ifs at refused with empty large valid <;> cases refused
    · exact ⟨.emptyValue, rfl, bytes, rfl, empty⟩
    · exact ⟨.valueTooLarge, rfl, bytes, rfl, large⟩
    · exact ⟨.invalidUtf8, rfl, bytes, rfl, valid⟩
  | _ =>
    cases refused
    exact ⟨.invalidType, rfl, fun _ same => by cases same⟩

theorem enum_refused {e : Refusal} (refused : enum allowed t path = .error e) :
    e = boundaryError .unknownEnum path ∧ ∀ name ∈ allowed, t ≠ .atom name := by
  cases t with
  | atom n =>
    simp only [enum] at refused
    split_ifs at refused with unlisted
    cases refused
    refine ⟨rfl, fun name listed same => unlisted ?_⟩
    cases same
    exact listed
  | _ =>
    cases refused
    exact ⟨rfl, fun _ _ same => by cases same⟩

theorem located_enum_of_subset (fewer : allowed' ⊆ allowed) :
    Located Refusal.path (Shape.FaultyAt (.oneOf allowed')) (enum allowed) := by
  refine located_leaf fun t path e refused => ?_
  obtain ⟨rfl, unlisted⟩ := enum_refused refused
  exact ⟨.unknownEnum, rfl, fun name listed => unlisted name (fewer listed)⟩

theorem located_enum : Located Refusal.path (Shape.FaultyAt (.oneOf allowed)) (enum allowed) :=
  located_enum_of_subset (List.Subset.refl allowed)

theorem located_boolean : Located Refusal.path (Shape.FaultyAt .flag) boolean := by
  refine located_leaf fun t path e refused => ?_
  cases t with
  | atom n =>
    simp only [boolean] at refused
    split_ifs at refused with other
    cases refused
    rw [not_or] at other
    exact ⟨.invalidType, rfl, by simpa [Shape.Faulty] using other⟩
  | _ =>
    cases refused
    exact ⟨.invalidType, rfl, by constructor <;> intro same <;> cases same⟩

theorem located_u32 : Located Refusal.path (Shape.FaultyAt .u32) u32 := by
  refine located_leaf fun t path e refused => ?_
  cases t with
  | integer m =>
    simp only [u32] at refused
    split_ifs at refused with inside
    cases refused
    refine ⟨.integerOutOfRange, rfl, fun n same => inside ?_⟩
    have bound : n.toNat < 2 ^ 32 := n.toNat_lt
    cases same
    omega
  | _ =>
    cases refused
    exact ⟨.integerOutOfRange, rfl, fun _ same => by cases same⟩

section Lists

variable {maximum count index : Nat}

theorem improper_list (improper : boundedProperList t maximum count = .improper) :
    ∀ members, t ≠ .ofList members := by
  induction t generalizing count with
  | cons head tail _ ih =>
    rw [boundedProperList] at improper
    split_ifs at improper
    rintro (_ | ⟨first, members⟩) same
    · cases same
    · injection same with _ rest
      exact ih improper members rest
  | empty => cases improper
  | _ => rintro (_ | ⟨first, members⟩) same <;> cases same

theorem overlong_list (long : boundedProperList t maximum count = .overLimit) (counted : count ≤ maximum) :
    ∃ u, t.member (maximum - count) = some u := by
  induction t generalizing count with
  | cons head tail _ ih =>
    rw [boundedProperList] at long
    split_ifs at long with full
    · exact ⟨head, by rw [full, Nat.sub_self, Term.member]⟩
    · obtain ⟨u, found⟩ := ih long (by omega)
      refine ⟨u, ?_⟩
      rw [show maximum - count = maximum - (count + 1) + 1 from by omega, Term.member, found]
  | _ => cases long

/-- A list whose members all pass holds atoms only. -/
theorem member_atoms (passed : setMembers allowed path t index = .ok ()) (i : Nat) :
    t.member i = (atoms t)[i]?.map Term.atom := by
  induction t generalizing index i with
  | cons head tail _ ih =>
    rw [setMembers, bind_ok] at passed
    obtain ⟨_, first, others⟩ := passed
    cases head with
    | atom n =>
      cases i with
      | zero => rfl
      | succ i => exact ih others i
    | _ => cases first
  | _ => cases i <;> rfl

theorem located_members {e : Refusal} (refused : setMembers allowed path t index = .error e) :
    ∃ i u, e = boundaryError .unknownEnum (path ++ [.index (index + i)]) ∧ t.member i = some u ∧
      ∀ name ∈ allowed, u ≠ .atom name := by
  induction t generalizing index with
  | cons head tail _ ih =>
    rw [setMembers] at refused
    cases first : enum allowed head (path ++ [.index index]) with
    | error e' =>
      rw [first] at refused
      cases refused
      exact ⟨0, head, (enum_refused first).1, rfl, (enum_refused first).2⟩
    | ok v =>
      rw [first] at refused
      obtain ⟨i, u, place, found, unlisted⟩ := ih refused
      exact ⟨i + 1, u, by rw [place, Nat.add_assoc, Nat.add_comm 1], found, unlisted⟩
  | _ => cases refused

theorem located_set (maximum : Nat) :
    Located Refusal.path (Shape.FaultyAt (.setOf allowed maximum)) (set allowed maximum) := by
  intro t path e refused
  have whole {reason : Reason} (same : boundaryError reason path = e)
      (faulty : (Shape.setOf allowed maximum).Faulty reason t) :
      ∃ rest u, e.path = path ++ rest ∧ t.at? rest = some u ∧
        (Shape.setOf allowed maximum).FaultyAt rest e u := by
    cases same
    exact ⟨[], t, (List.append_nil _).symm, by rw [Term.at?], rfl, _, rfl, faulty⟩
  simp only [set] at refused
  split at refused
  · cases members : setMembers allowed path t 0 with
    | error e' =>
      rw [members] at refused
      cases refused
      obtain ⟨i, u, rfl, found, unlisted⟩ := located_members members
      rw [Nat.zero_add]
      exact ⟨[.index i], u, rfl, by simp [Term.at?, found], rfl, .oneOf allowed, rfl, unlisted⟩
    | ok _ =>
      rw [members] at refused
      by_cases distinct : (atoms t).Nodup
      · rw [if_neg (not_not.mpr distinct)] at refused
        cases refused
      · rw [if_pos distinct] at refused
        rw [List.nodup_iff_getElem?_ne_getElem?] at distinct
        simp only [not_forall, ne_eq, not_not] at distinct
        obtain ⟨i, j, before, inside, same⟩ := distinct
        refine whole (Except.error.inj refused) ⟨i, j, .atom (atoms t)[j], before, ?_, ?_⟩
        · rw [member_atoms members, same, List.getElem?_eq_getElem inside, Option.map_some]
        · rw [member_atoms members, List.getElem?_eq_getElem inside, Option.map_some]
  · rename_i long
    exact whole (Except.error.inj refused) (overlong_list long (Nat.zero_le _))
  · rename_i improper
    exact whole (Except.error.inj refused) (improper_list improper)

end Lists

theorem located_optional (located : Located Refusal.path shape.FaultyAt check) :
    Located Refusal.path (Shape.FaultyAt (.optional shape)) check.optional := by
  intro t path e refused
  obtain ⟨rest, u, place, found, present, told, expected, there, faulty⟩ := located.optional t path e refused
  refine ⟨rest, u, place, found, told, ?_⟩
  cases rest with
  | nil =>
    cases there
    refine ⟨.optional shape, rfl, fun nil => ?_, faulty⟩
    have absent := present rfl
    rw [nil] at absent
    cases absent
  | cons first rest => exact ⟨expected, there, faulty⟩

/-- The checks of a struct's fields, each against the shape of its field. -/
def Agree (checks : List (String × Check Refusal)) (parts : List (String × Shape)) : Prop :=
  List.Forall₂ (fun entry part => entry.1 = part.1 ∧ Located Refusal.path part.2.FaultyAt entry.2) checks parts

theorem Agree.names (agree : Agree checks parts) : checks.map Prod.fst = parts.map Prod.fst := by
  induction agree with
  | nil => rfl
  | cons same _ ih => rw [List.map_cons, List.map_cons, same.1, ih]

theorem Agree.part (agree : Agree checks parts) (distinct : (parts.map Prod.fst).Nodup)
    {entry : String × Check Refusal} (listed : entry ∈ checks) :
    ∃ part, parts.lookup entry.1 = some part ∧ Located Refusal.path part.FaultyAt entry.2 := by
  induction agree with
  | nil => cases listed
  | @cons entry' part checks parts same agree ih =>
    obtain ⟨absent, distinct⟩ := List.nodup_cons.mp distinct
    rcases List.mem_cons.mp listed with rfl | later
    · exact ⟨part.2, by rw [List.lookup_cons, same.1, beq_self_eq_true], same.2⟩
    · obtain ⟨part', found, located⟩ := ih distinct later
      have apart : entry.1 ≠ part.1 := fun clash =>
        absent (clash ▸ Agree.names agree ▸ List.mem_map_of_mem later)
      exact ⟨part', by rw [List.lookup_cons, beq_eq_false_iff_ne.mpr apart, found], located⟩

theorem located_struct (distinct : ("__struct__" :: parts.map Prod.fst).Nodup) (agree : Agree checks parts) :
    Located Refusal.path (Shape.FaultyAt (.record module parts)) (struct module checks) := by
  refine located_record ?_ ?_ ?_
  · intro t path other
    refine ⟨rfl, rfl, _, rfl, fun tagged => ?_⟩
    rw [Term.isStruct_iff.mpr tagged] at other
    cases other
  · intro t path tagged inexact
    refine ⟨rfl, rfl, _, rfl, Term.isStruct_iff.mp tagged, ?_⟩
    rintro value rfl
    rw [agree.names, Term.exactKeys_object distinct] at inexact
    cases inexact
  · intro entry listed t path e refused
    obtain ⟨part, found, located⟩ := agree.part (List.nodup_cons.mp distinct).2 listed
    obtain ⟨rest, u, place, there, told, expected, at_, faulty⟩ := located t path e refused
    refine ⟨rest, u, place, there, told, expected, ?_, faulty⟩
    rw [Shape.at?, Shape.inside, found, Option.bind_some, at_]

theorem located_policy : Located Refusal.path policyShape.FaultyAt policy := by
  refine located_struct (by decide) ?_
  simp [Agree, located_text, located_enum, maxCapabilities, maxEgressKinds, located_set]

theorem located_inspection : Located Refusal.path inspectionShape.FaultyAt inspection := by
  refine located_struct (by decide) ?_
  simp [Agree, located_text, located_boolean]

theorem located_resolution : Located Refusal.path resolutionShape.FaultyAt optionalResolution := by
  refine located_optional (located_struct (by decide) ?_)
  simp [Agree, located_text, located_enum]

theorem located_evidence : Located Refusal.path evidenceShape.FaultyAt optionalEvidence := by
  refine located_optional (located_struct (by decide) ?_)
  simp [Agree, located_text, located_boolean]

theorem located_cross : Located Refusal.path crossShape.FaultyAt crossInput := by
  refine located_struct (by decide) ?_
  simp [Agree, located_text, located_enum, optionalEnum, located_optional, located_evidence]

theorem located_ceiling : Located Refusal.path (Shape.FaultyAt .ceilings) ceiling := by
  intro t path e refused
  have whole {reason : Reason} (same : boundaryError reason path = e)
      (faulty : Shape.ceilings.Faulty reason t) :
      ∃ rest u, e.path = path ++ rest ∧ t.at? rest = some u ∧ Shape.ceilings.FaultyAt rest e u := by
    cases same
    exact ⟨[], t, (List.append_nil _).symm, by rw [Term.at?], rfl, _, rfl, faulty⟩
  cases t with
  | map keys values =>
    simp only [ceiling] at refused
    split at refused
    · rename_i exact
      split at refused
      · cases refused
      · rename_i kind bad
        cases refused
        have listed : kind ∈ egressKinds := List.mem_of_find?_eq_some bad
        have unknown := List.find?_some bad
        refine ⟨[.field kind], (Term.map keys values).get kind, rfl, ?_, rfl, .optional (.oneOf confLevels), ?_, ?_⟩
        · rw [Term.at?, Term.field_of_exactKeys exact listed, Option.bind_some, Term.at?]
        · simp [Shape.at?, Shape.inside, listed]
        · have apart {level : String} (known : level ∈ "nil" :: confLevels) :
              (Term.map keys values).get kind ≠ .atom level := by
            intro same
            simp only [same, decide_eq_true_eq] at unknown
            exact unknown known
          exact ⟨apart List.mem_cons_self, fun level known => apart (List.mem_cons_of_mem _ known)⟩
    · rename_i inexact
      refine whole (Except.error.inj refused) ?_
      intro value same
      rw [same, Term.exactKeys_object egressNames.distinct] at inexact
      exact inexact rfl
  | _ => exact whole (Except.error.inj refused) fun _ _ same => by cases same

theorem located_commands (name : CommandName) :
    Located Refusal.path (commandShape name).FaultyAt (struct (commandModule name) (commandFields name)) := by
  refine located_struct (by cases name <;> decide) ?_
  cases name <;> simp [Agree, commandFields, commandParts, located_text, optionalOpaque, located_optional,
    located_enum, located_u32, located_policy, maxEgressKinds, located_set, located_boolean,
    located_inspection, located_resolution, located_cross]

theorem located_actions (name : CommandName) :
    Located Refusal.path (actionShape name).FaultyAt (struct (actionModule name) (actionFields name)) := by
  refine located_struct (by cases name <;> decide) ?_
  cases name <;> simp [Agree, actionFields, actionParts, located_text, optionalOpaque, located_optional,
    located_enum, located_u32, located_boolean]

theorem located_settlement : Located Refusal.path quarantineShape.FaultyAt
    (struct (commandModule .settleInvocation) (commandFields .settleInvocation)) := by
  refine located_struct (by decide) ?_
  have decided := @located_enum_of_subset outcomes ["success", "failure"] (by decide)
  simp [Agree, commandFields, located_text, decided, located_resolution]

theorem located_background : Located Refusal.path backgroundShape.FaultyAt
    (struct "Elixir.ExArgus.Kernel.Background" [("mode", enum ["enforce", "monitor"]),
      ("allow_ceiling", ceiling), ("inspect_ceiling", ceiling)]) := by
  refine located_struct (by decide) ?_
  simp [Agree, located_enum, located_ceiling]

/-- The struct that a term names decides what it is checked against. -/
theorem blames_one {modules : CommandName → String} {checks : CommandName → List (String × Check Refusal)}
    {parts : CommandName → List (String × Shape)} (located : ∀ name, Located Refusal.path
      (Shape.FaultyAt (.record (modules name) (parts name))) (struct (modules name) (checks name)))
    {e : Refusal} (refused : (match CommandName.all.find? fun name => t.isStruct (modules name) with
      | some name => struct (modules name) (checks name) t path
      | none => .error (boundaryError .invalidStruct path)) = .error e) :
    Shape.BlamesOne (fun name => .record (modules name) (parts name)) t path e := by
  split at refused
  · rename_i name found
    have tagged := List.find?_some found
    exact .inr ⟨name, not_not.mpr (Term.isStruct_iff.mp tagged), located name t path e refused⟩
  · rename_i unknown
    refine .inl ⟨(Except.error.inj refused).symm, fun name tagged => ?_⟩
    exact List.find?_eq_none.mp unknown name name.mem_all (Term.isStruct_iff.mpr tagged)

theorem command_blames {e : Refusal} (refused : command t = .error e) :
    Shape.BlamesOne commandShape t [] e :=
  blames_one located_commands refused

theorem action_blames {e : Refusal} (refused : action t path = .error e) :
    Shape.BlamesOne actionShape t path e :=
  blames_one located_actions refused

theorem background_blames {e : Refusal} (refused : background t = .error e) :
    backgroundShape.Blames t [] e :=
  located_background t [] e refused

theorem settlement_blames {e : Refusal} (settle : t.isStruct (commandModule .settleInvocation) = true)
    (refused : command t = .error e) : quarantineShape.Blames t [] e := by
  unfold command at refused
  split at refused
  · rename_i name found
    have tagged := List.find?_some found
    rw [Term.isStruct_iff, Term.isStruct_iff.mp settle, Option.some.injEq, Term.atom.injEq] at tagged
    cases commandModules.injective tagged
    exact located_settlement t [] e refused
  · rename_i unknown
    exact absurd settle (List.find?_eq_none.mp unknown .settleInvocation (CommandName.mem_all _))

/-- A settlement has no set to sort, so it is answered as it came. -/
theorem settlement_unchanged {normalized : Term}
    (settle : t.isStruct (commandModule .settleInvocation) = true) (passed : command t = .ok normalized) :
    normalized = t ∧ t.field "outcome" = some (t.get "outcome") := by
  obtain ⟨c, rfl⟩ := command_only passed
  rw [commandTerm, Term.isStruct_struct, decide_eq_true_eq, commandModules.injective.eq_iff] at settle
  cases c with
  | settleInvocation inv outcome resolution =>
    rw [command_term] at passed
    simp only [Validation.command, reported, bind_ok, mapError_ok, map_ok, pure_ok] at passed
    obtain ⟨_, ⟨_, -, _, -, rfl⟩, same⟩ := passed
    exact ⟨same.symm, by simp [commandTerm, Term.get, Term.struct, commandGiven]⟩
  | _ => cases settle

/-- The struct is checked as any settlement, and then its outcome once more. -/
theorem quarantine_blames {e : Refusal} (refused : quarantineResolution t = .error e) :
    quarantineShape.Blames t [] e := by
  unfold quarantineResolution commandFor at refused
  split at refused
  · rename_i settle
    cases checked : command t with
    | error e' =>
      rw [checked] at refused
      cases refused
      exact settlement_blames settle checked
    | ok normalized =>
      obtain ⟨rfl, read⟩ := settlement_unchanged settle checked
      rw [checked] at refused
      cases resolved : enum ["success", "failure"] (normalized.get "outcome") [.field "outcome"] with
      | ok v =>
        simp only [resolved, bind, Except.bind] at refused
        cases refused
      | error e' =>
        simp only [resolved, bind, Except.bind] at refused
        cases refused
        obtain ⟨rfl, unlisted⟩ := enum_refused resolved
        exact ⟨[.field "outcome"], _, rfl, by rw [Term.at?, read, Option.bind_some, Term.at?], rfl,
          .oneOf ["success", "failure"], rfl, unlisted⟩
  · rename_i other
    cases refused
    refine ⟨[], t, rfl, by rw [Term.at?], rfl, quarantineShape, rfl, fun tagged => ?_⟩
    exact other (Term.isStruct_iff.mpr tagged)

end Located

end Terms

/-- Every refusal names a place of the term it refuses, and what is there has the fault that the reason
    tells of what was to be there. -/
theorem refusals_located (t : Term) :
    (∀ e, Terms.command t = .error e → Shape.BlamesOne Terms.commandShape t [] e) ∧
    (∀ e, Terms.quarantineResolution t = .error e → Terms.quarantineShape.Blames t [] e) ∧
    (∀ path e, Terms.action t path = .error e → Shape.BlamesOne Terms.actionShape t path e) ∧
    (∀ e, Terms.background t = .error e → Terms.backgroundShape.Blames t [] e) :=
  ⟨fun _ => Terms.command_blames, fun _ => Terms.quarantine_blames, fun _ _ => Terms.action_blames,
    fun _ => Terms.background_blames⟩

end ExArgus
