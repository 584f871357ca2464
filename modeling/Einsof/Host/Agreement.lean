import Einsof.Host.Encoding

namespace ExArgus

open Argus Erlang Fallible

/-! The untyped validation of a typed value's term answers as the typed validation of the value. -/

/-- The answer of a typed check as the untyped one gives it. -/
def reported {α : Type} (x : Except Error α) : Except Refusal α := x.mapError Error.refusal

section Reported

variable {α β : Type} {x : Except Error α} {f : α → Except Error β} {g : α → β}

theorem reported_ok {a : α} : reported (.ok a) = .ok a := rfl

theorem reported_error {e : Error} : reported (.error e : Except Error α) = .error e.refusal := rfl

theorem reported_pure {a : α} : reported (pure a) = pure a := rfl

theorem reported_bind : reported (x >>= f) = reported x >>= fun a => reported (f a) := by
  cases x <;> rfl

theorem reported_map : reported (x.map g) = reported x >>= fun a => pure (g a) := by
  cases x <;> rfl

end Reported

theorem places_append (path : List Field) (field : Field) :
    places (path ++ [field]) = places path ++ [.field field.name] := List.map_append

namespace Terms

/-- The check of a string, at a place of the term. -/
def opaqueAt (s : String) (path : List Place) : Except Refusal Unit := (checkOpaque (text s) path).map fun _ => ()

theorem checkOpaque_text {s : String} {path : List Place} :
    checkOpaque (text s) path = opaqueAt s path >>= fun _ => pure (text s) := by
  simp only [opaqueAt, checkOpaque, text]
  split_ifs <;> rfl

theorem reported_checkOpaque {s : String} {path : List Field} :
    reported (Validation.checkOpaque s path) = opaqueAt s (places path) := by
  have valid : s.toByteArray.IsValidUTF8 := s.isValidUTF8
  have size : s.toByteArray.size = s.utf8ByteSize := String.size_toByteArray
  simp only [opaqueAt, checkOpaque, text, Validation.checkOpaque, size, String.utf8ByteSize_eq_zero_iff, valid,
    not_true_eq_false, if_false]
  split_ifs <;> rfl

section Enum

variable {α : Type} {all : List α} {name : α → String} {allowed : List String} {path : List Place}

theorem Names.enum (names : Names all name allowed) (a : α) :
    enum allowed (.atom (name a)) path = pure (.atom (name a)) := by
  have listed : name a ∈ allowed := names.listed ▸ List.mem_map_of_mem (names.mem a)
  simp only [Terms.enum, if_pos listed]
  rfl

theorem boolean_term (b : Bool) : boolean (boolTerm b) path = pure (boolTerm b) := by
  cases b <;> rfl

theorem u32_term (n : UInt32) : u32 (.integer n.toNat) path = pure (.integer n.toNat) := by
  have bound : n.toNat < 2 ^ 32 := n.toNat_lt
  have inside : (0 : Int) ≤ n.toNat ∧ (n.toNat : Int) ≤ 4294967295 := by omega
  simp only [u32, if_pos inside]
  rfl

/-- The check of a set, at a place of the term. -/
def setAt [DecidableEq α] (xs all : List α) (maximum : Nat) (path : List Place) : Except Refusal (List α) :=
  if xs.length > maximum then .error (boundaryError .capacityExceeded path) else
  if ¬ xs.Nodup then .error (boundaryError .duplicateValue path) else
  .ok (xs.insertionSort fun a b => all.idxOf a ≤ all.idxOf b)

theorem reported_set [DecidableEq α] {xs all : List α} {maximum : Nat} {path : List Field} :
    reported (Validation.set xs all maximum path) = setAt xs all maximum (places path) := by
  simp only [Validation.set, setAt]
  split_ifs <;> rfl

theorem boundedProperList_ofList {ts : List Term} {maximum count : Nat} (below : count ≤ maximum) :
    boundedProperList (.ofList ts) maximum count =
      if count + ts.length > maximum then .overLimit else .proper := by
  induction ts generalizing count with
  | nil =>
    have short : ¬ count + ([] : List Term).length > maximum := by simpa using below
    rw [if_neg short]
    rfl
  | cons t ts ih =>
    rw [Term.ofList, boundedProperList]
    by_cases full : count = maximum
    · have long : count + (t :: ts).length > maximum := by simp [full]
      rw [if_pos full, if_pos long]
    · rw [if_neg full, ih (by omega), List.length_cons, Nat.add_right_comm, Nat.add_assoc]

theorem Names.members (names : Names all name allowed) (xs : List α) (index : Nat) :
    setMembers allowed path (setTerm name xs) index = .ok () := by
  induction xs generalizing index with
  | nil => rfl
  | cons x xs ih =>
    rw [setTerm, List.map_cons, Term.ofList, setMembers, names.enum, pure_bind]
    exact ih (index + 1)

theorem atoms_setTerm (xs : List α) : atoms (setTerm name xs) = xs.map name := by
  induction xs with
  | nil => rfl
  | cons x xs ih => exact congrArg (name x :: ·) ih

theorem Names.set [DecidableEq α] (names : Names all name allowed) (xs : List α) (maximum : Nat) :
    set allowed maximum (setTerm name xs) path = setAt xs all maximum path >>= fun sorted =>
      pure (setTerm name sorted) := by
  have sorted : (xs.map name).insertionSort (fun a b => allowed.idxOf a ≤ allowed.idxOf b) =
      (xs.insertionSort fun a b => all.idxOf a ≤ all.idxOf b).map name := by
    refine (List.map_insertionSort _ _ name xs fun a _ b _ => ?_).symm
    rw [names.order, names.order]
  have size := @boundedProperList_ofList (xs.map fun a => .atom (name a)) maximum 0 (Nat.zero_le _)
  rw [List.length_map, Nat.zero_add] at size
  unfold Terms.set setAt
  rw [setTerm, size, ← setTerm]
  by_cases long : xs.length > maximum
  · rw [if_pos long, if_pos long]
    rfl
  · simp only [if_neg long, names.members, atoms_setTerm, List.nodup_map_iff names.injective, sorted]
    split_ifs
    · rw [List.map_map]
      rfl
    · rfl

end Enum

section Records

variable {path : List Field}

theorem optional_struct {check : Check Refusal} {module : String} {given : List (String × Term)}
    {path : List Place} : check.optional (.struct module given) path = check (.struct module given) path := rfl

theorem optionalOpaque_none {path : List Place} : optionalOpaque (.atom "nil") path = pure (.atom "nil") := rfl

theorem optionalOpaque_text {s : String} {path : List Place} :
    optionalOpaque (text s) path = checkOpaque (text s) path := rfl

theorem optionalEnum_conf {l : ConfLevel} {path : List Place} :
    optionalEnum confLevels (.atom (confName l)) path = pure (.atom (confName l)) := by
  cases l <;> rfl

/-- Both answers as one chain of checks of strings and sets, each at its place. -/
theorem policy_term (p : ActionPolicySnapshotN) :
    policy (policyTerm p) (places path) =
      reported (Validation.policy p path) >>= fun p => pure (policyTerm p) := by
  rw [policy, struct, policyTerm, Check.record_struct (by decide) rfl]
  simp only [List.map, Check.fields_cons, Check.fields_nil, checkOpaque_text, capNames.set, egressNames.set,
    confNames.enum, integNames.enum, Validation.policy, Validation.opaques, List.forM, reported_bind,
    reported_checkOpaque, reported_set, reported_pure, places_append, Field.name, bind_assoc, pure_bind]
  rfl

theorem inspection_term (x : InspectionAttestationN) :
    inspection (inspectionTerm x) (places path) =
      reported (Validation.inspection x path) >>= fun _ => pure (inspectionTerm x) := by
  rw [inspection, struct, inspectionTerm, Check.record_struct (by decide) rfl]
  simp only [List.map, Check.fields_cons, Check.fields_nil, checkOpaque_text, boolean_term,
    Validation.inspection, Validation.opaques, List.forM, reported_bind, reported_checkOpaque, reported_pure,
    places_append, Field.name, bind_assoc, pure_bind]
  rfl

theorem optionalResolution_term (x : Option ResolutionAttestationN) :
    optionalResolution (optionTerm resolutionTerm x) (places path) =
      reported (Validation.optionalResolution x path) >>= fun _ => pure (optionTerm resolutionTerm x) := by
  cases x with
  | none => rfl
  | some x =>
    rw [optionTerm, optionalResolution, resolutionTerm, optional_struct, resolution, struct,
      Check.record_struct (by decide) rfl]
    simp only [List.map, Check.fields_cons, Check.fields_nil, checkOpaque_text, outcomeNames.enum,
      Validation.optionalResolution, Validation.opaques, List.forM, reported_bind, reported_checkOpaque,
      reported_pure, places_append, Field.name, bind_assoc, pure_bind]
    rfl

theorem optionalEvidence_term (x : Option ConformanceAttestationN) :
    optionalEvidence (optionTerm evidenceTerm x) (places path) =
      reported (Validation.optionalEvidence x path) >>= fun _ => pure (optionTerm evidenceTerm x) := by
  cases x with
  | none => rfl
  | some x =>
    rw [optionTerm, optionalEvidence, evidenceTerm, optional_struct, evidence, struct,
      Check.record_struct (by decide) rfl]
    simp only [List.map, Check.fields_cons, Check.fields_nil, checkOpaque_text, boolean_term,
      Validation.optionalEvidence, Validation.opaques, List.forM, reported_bind, reported_checkOpaque,
      reported_pure, places_append, Field.name, bind_assoc, pure_bind]
    rfl

theorem optionalConf_term (l : Option ConfLevel) {path : List Place} :
    optionalEnum confLevels (optionTerm (fun l => .atom (confName l)) l) path =
      pure (optionTerm (fun l => .atom (confName l)) l) := by
  cases l with
  | none => rfl
  | some l => exact optionalEnum_conf

theorem crossInput_term (q : CrossInputN) :
    crossInput (crossTerm q) (places path) =
      reported (Validation.crossInput q path) >>= fun _ => pure (crossTerm q) := by
  have attached := @optionalEvidence_term (path ++ [.evidence]) q.evidence
  rw [places_append, Field.name] at attached
  rw [crossInput, struct, crossTerm, Check.record_struct (by decide) rfl]
  simp only [List.map, Check.fields_cons, Check.fields_nil, checkOpaque_text, confNames.enum,
    integNames.enum, fallbackNames.enum, optionalConf_term, attached,
    Validation.crossInput, Validation.opaques, List.forM, reported_bind, reported_checkOpaque,
    places_append, Field.name, bind_assoc, pure_bind]
  rfl

theorem commandModules : Names CommandName.all commandModule (CommandName.all.map commandModule) :=
  ⟨rfl, fun name => by cases name <;> decide, by decide⟩

theorem actionModules : Names CommandName.all actionModule (CommandName.all.map actionModule) :=
  ⟨rfl, fun name => by cases name <;> decide, by decide⟩

theorem find_struct {module : CommandName → String} (injective : Function.Injective module)
    (name : CommandName) (given : List (String × Term)) :
    (CommandName.all.find? fun other => (Term.struct (module name) given).isStruct (module other)) =
      some name := by
  have only : (fun other => (Term.struct (module name) given).isStruct (module other)) =
      fun other => decide (name = other) := by
    funext other
    simp only [Term.isStruct_struct, injective.eq_iff]
  rw [only]
  cases name <;> rfl

theorem commandFields_distinct (name : CommandName) :
    ("__struct__" :: (commandFields name).map Prod.fst).Nodup := by
  cases name <;> decide

theorem commandGiven_named (c : CommandN) :
    (commandGiven c).map Prod.fst = (commandFields (commandName c)).map Prod.fst := by
  cases c <;> rfl

theorem command_term (c : CommandN) :
    command (commandTerm c) = reported (Validation.command c) >>= fun c => pure (commandTerm c) := by
  have dispatch : command (commandTerm c) =
      struct (commandModule (commandName c)) (commandFields (commandName c)) (commandTerm c) [] := by
    rw [command, commandTerm, find_struct commandModules.injective]
  rw [dispatch, struct, commandTerm, Check.record_struct (commandFields_distinct _) (commandGiven_named c)]
  cases c with
  | beginInvocation agent inv challenge snapshot egress argsHash authorized =>
    have attached := @policy_term [.policy] snapshot
    simp only [commandGiven, commandName, commandFields, List.map, Check.fields_cons, Check.fields_nil,
      checkOpaque_text, egressNames.set, boolean_term, places, Field.name, List.nil_append] at attached ⊢
    simp only [attached, Validation.command, Validation.beginCommand, Validation.opaques, List.forM,
      reported_bind, reported_checkOpaque, reported_set, reported_pure, places, List.map, Field.name,
      List.nil_append, bind_assoc, pure_bind]
    rfl
  | authorizeInspected inv attestation =>
    have attached := @inspection_term [.attestation] attestation
    simp only [commandGiven, commandName, commandFields, List.map, Check.fields_cons, Check.fields_nil,
      checkOpaque_text, places, Field.name, List.nil_append] at attached ⊢
    simp only [attached, Validation.command, Validation.opaques, List.forM, reported_bind, reported_map,
      reported_checkOpaque, places, List.map, Field.name, List.nil_append, bind_assoc, pure_bind]
    rfl
  | settleInvocation inv outcome resolution =>
    have attached := @optionalResolution_term [.resolution] resolution
    simp only [commandGiven, commandName, commandFields, List.map, Check.fields_cons, Check.fields_nil,
      checkOpaque_text, outcomeNames.enum, places, Field.name, List.nil_append] at attached ⊢
    simp only [attached, Validation.command, Validation.opaques, List.forM, reported_bind, reported_map,
      reported_checkOpaque, places, List.map, Field.name, List.nil_append, bind_assoc, pure_bind]
    rfl
  | crossOutput input =>
    have attached := @crossInput_term [.input] input
    simp only [commandGiven, commandName, commandFields, List.map, Check.fields_cons, Check.fields_nil,
      places, Field.name, List.nil_append] at attached ⊢
    simp only [attached, Validation.command, reported_map, bind_assoc, pure_bind]
    rfl
  | ingest agent src pconf pinteg =>
    cases src
    all_goals
      simp only [commandGiven, commandName, commandFields, List.map, Check.fields_cons, Check.fields_nil,
        checkOpaque_text, optionTerm, optionalOpaque_none, optionalOpaque_text, confNames.enum, integNames.enum,
        Validation.command, Validation.optionalField, Validation.opaques, List.forM, reported_bind,
        reported_map, reported_checkOpaque, reported_pure, places, Field.name, List.nil_append, bind_assoc,
        pure_bind]
      rfl
  | _ =>
    simp only [commandGiven, commandName, commandFields, List.map, Check.fields_cons, Check.fields_nil,
      checkOpaque_text, capNames.enum, u32_term, Validation.command, Validation.opaques, List.forM,
      reported_bind, reported_map, reported_checkOpaque, reported_pure, places, Field.name, List.nil_append,
      bind_assoc, pure_bind]
    rfl

theorem quarantineResolution_term (c : CommandN) :
    quarantineResolution (commandTerm c) =
      reported (Validation.quarantineResolution c) >>= fun c => pure (commandTerm c) := by
  have isSettle : (commandTerm c).isStruct (commandModule .settleInvocation) =
      decide (commandName c = .settleInvocation) := by
    simp only [commandTerm, Term.isStruct_struct, commandModules.injective.eq_iff]
  cases c with
  | settleInvocation inv outcome resolution =>
    have read : ∀ (outcome : Outcome) (resolution : Option ResolutionAttestationN),
        (commandTerm (.settleInvocation inv outcome resolution)).get "outcome" =
          .atom (outcomeName outcome) := fun _ _ => by
      simp [commandTerm, Term.get_struct, commandGiven, List.lookup_cons]
    simp only [quarantineResolution, commandFor, isSettle, commandName, decide_true, if_true, command_term,
      Validation.quarantineResolution, Validation.command, reported_bind, reported_map, bind_assoc,
      pure_bind, read]
    cases outcome <;> rfl
  | _ =>
    simp only [quarantineResolution, isSettle, commandName]
    rfl

theorem actionFields_distinct (name : CommandName) :
    ("__struct__" :: (actionFields name).map Prod.fst).Nodup := by
  cases name <;> decide

theorem actionGiven_named (act : ActionN) :
    (actionGiven act).map Prod.fst = (actionFields (actionName act)).map Prod.fst := by
  cases act <;> rfl

theorem action_term (act : ActionN) :
    action (actionTerm act) (places path) =
      reported (Validation.action act path) >>= fun act => pure (actionTerm act) := by
  have dispatch : action (actionTerm act) (places path) =
      struct (actionModule (actionName act)) (actionFields (actionName act)) (actionTerm act) (places path) := by
    rw [action, actionTerm, find_struct actionModules.injective]
  rw [dispatch, struct, actionTerm, Check.record_struct (actionFields_distinct _) (actionGiven_named act)]
  cases act with
  | ingest agent src pconf pinteg disposition =>
    cases src
    all_goals
      simp only [actionGiven, actionName, actionFields, List.map, Check.fields_cons, Check.fields_nil,
        checkOpaque_text, optionTerm, optionalOpaque_none, optionalOpaque_text, confNames.enum, integNames.enum,
        dispositionNames.enum, Validation.action, Validation.actionFields, Validation.optionalField,
        Validation.opaques, List.forM, reported_bind, reported_map, reported_checkOpaque, reported_pure,
        places_append, Field.name, bind_assoc, pure_bind]
      rfl
  | settleInvocation inv agent disposition outcome clvl ilvl resolution =>
    cases resolution
    all_goals
      simp only [actionGiven, actionName, actionFields, List.map, Check.fields_cons, Check.fields_nil,
        checkOpaque_text, optionTerm, optionalOpaque_none, optionalOpaque_text, confNames.enum, integNames.enum,
        dispositionNames.enum, outcomeNames.enum, Validation.action, Validation.actionFields,
        Validation.optionalField, Validation.opaques, List.forM, reported_bind, reported_map,
        reported_checkOpaque, reported_pure, places_append, Field.name, bind_assoc, pure_bind]
      rfl
  | _ =>
    simp only [actionGiven, actionName, actionFields, List.map, Check.fields_cons, Check.fields_nil,
      checkOpaque_text, capNames.enum, u32_term, verdictNames.enum, branchNames.enum, dispositionNames.enum,
      boolean_term, Validation.action, Validation.actionFields, Validation.opaques, List.forM, reported_bind,
      reported_map, reported_checkOpaque, reported_pure, places_append, Field.name, bind_assoc, pure_bind]
    rfl

theorem find_egress (e : EgressKind) : (EgressKind.all.find? fun e' => egressName e' = egressName e) = some e := by
  cases e <;> rfl

section Ceiling

variable {value : EgressKind → Option (Option ConfLevel)}

theorem field_ceilingTerm (e : EgressKind) : (ceilingTerm value).field (egressName e) =
    (value e).map (optionTerm fun l => .atom (confName l)) := by
  have listed : egressName e ∈ (EgressKind.all.filter fun e => (value e).isSome).map egressName ↔
      (value e).isSome = true := by
    rw [List.mem_map_of_injective egressNames.injective, List.mem_filter]
    exact and_iff_right (EgressKind.mem_all e)
  rw [ceilingTerm, Term.field_object]
  cases present : value e with
  | none =>
    rw [if_neg (by rw [listed, present]; exact Bool.false_ne_true)]
    rfl
  | some ceiling =>
    rw [if_pos (by rw [listed, present]; rfl), find_egress, Option.bind_some, present]
    rfl

theorem exactKeys_ceilingTerm : (ceilingTerm value).exactKeys egressKinds = true ↔
    ∀ e ∈ EgressKind.all, (value e).isSome = true := by
  constructor
  · intro exact e _
    have found := Term.field_of_exactKeys exact (egressNames.listed ▸ List.mem_map_of_mem (EgressKind.mem_all e))
    rw [field_ceilingTerm] at found
    cases present : value e with
    | none =>
      rw [present] at found
      cases found
    | some ceiling => rfl
  · intro all
    rw [Term.exactKeys_iff egressNames.distinct]
    conv_lhs => rw [ceilingTerm, List.filter_eq_self.mpr all, ← egressNames.listed]
    apply Term.object_congr
    intro name listed
    rw [egressNames.listed] at listed
    obtain ⟨e, member, rfl⟩ := List.mem_map.mp listed
    obtain ⟨ceiling, present⟩ := Option.isSome_iff_exists.mp (all e member)
    rw [Term.get, field_ceilingTerm, find_egress, Option.bind_some, present]
    rfl

theorem badCeiling_ceilingTerm (all : ∀ e ∈ EgressKind.all, (value e).isSome = true) :
    badCeiling (ceilingTerm value) = none := by
  rw [badCeiling, List.find?_eq_none]
  intro name listed
  rw [egressNames.listed] at listed
  obtain ⟨e, member, rfl⟩ := List.mem_map.mp listed
  obtain ⟨ceiling, present⟩ := Option.isSome_iff_exists.mp (all e member)
  rw [Term.get, field_ceilingTerm, present]
  cases ceiling with
  | none => decide
  | some l => cases l <;> decide

theorem ceiling_term : ceiling (ceilingTerm value) (places path) =
    reported (Validation.ceiling value path) >>= fun _ => pure (ceilingTerm value) := by
  have exact := @exactKeys_ceilingTerm value
  have sound := @badCeiling_ceilingTerm value
  obtain ⟨keys, values, shape⟩ : ∃ keys values, ceilingTerm value = .map keys values := ⟨_, _, rfl⟩
  rw [shape] at exact sound ⊢
  by_cases all : ∀ e ∈ EgressKind.all, (value e).isSome = true
  · rw [Validation.ceiling, if_pos all]
    simp only [ceiling, exact.mpr all, sound all, if_true]
    rfl
  · rw [Validation.ceiling, if_neg all]
    simp only [ceiling, mt exact.mp all]
    rfl

end Ceiling

theorem background_term (bg : BackgroundN) :
    background (backgroundTerm bg) = reported (Validation.background bg) >>= fun bg => pure (backgroundTerm bg) := by
  have allow := @ceiling_term [.allowCeiling] bg.allowCeiling
  have inspect := @ceiling_term [.inspectCeiling] bg.inspectCeiling
  rw [background, struct, backgroundTerm, Check.record_struct (by decide) rfl]
  simp only [List.map, Check.fields_cons, Check.fields_nil, modeNames.enum, places, Field.name,
    List.nil_append] at allow inspect ⊢
  simp only [allow, inspect, Validation.background, reported_bind, reported_pure, bind_assoc, pure_bind]
  rfl

end Records

end Terms

end ExArgus
