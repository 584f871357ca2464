import Einsof.Host.Agreement

namespace ExArgus

open Argus Erlang Fallible

/-! Different values have different terms. -/

namespace Terms

theorem text_inj {s s' : String} : text s = text s' ↔ s = s' := by
  constructor
  · intro same
    injection same with bytes
    exact String.toByteArray_inj.mp bytes
  · exact congrArg text

theorem Names.atom_inj {α : Type} {all : List α} {name : α → String} {allowed : List String}
    (names : Names all name allowed) {a b : α} : Term.atom (name a) = .atom (name b) ↔ a = b := by
  rw [Term.atom.injEq, names.injective.eq_iff]

theorem ofList_inj {ts us : List Term} : Term.ofList ts = .ofList us ↔ ts = us := by
  induction ts generalizing us with
  | nil => cases us <;> simp [Term.ofList]
  | cons t ts ih => cases us <;> simp [Term.ofList, ih]

theorem Names.set_inj {α : Type} {all : List α} {name : α → String} {allowed : List String}
    (names : Names all name allowed) {xs ys : List α} : setTerm name xs = setTerm name ys ↔ xs = ys := by
  have injective : Function.Injective fun a => Term.atom (name a) := fun a b same => names.atom_inj.mp same
  rw [setTerm, setTerm, ofList_inj, (List.map_injective_iff.mpr injective).eq_iff]

theorem option_inj {α : Type} {term : α → Term} (plain : ∀ a, (term a).isNil = false)
    (injective : Function.Injective term) {o o' : Option α} : optionTerm term o = optionTerm term o' ↔ o = o' := by
  cases o with
  | none =>
    cases o' with
    | none => simp
    | some a =>
      refine ⟨fun same => ?_, fun same => by cases same⟩
      have nil := plain a
      rw [optionTerm, optionTerm] at same
      rw [← same] at nil
      cases nil
  | some a =>
    cases o' with
    | none =>
      refine ⟨fun same => ?_, fun same => by cases same⟩
      have nil := plain a
      rw [optionTerm, optionTerm] at same
      rw [same] at nil
      cases nil
    | some b => simp only [optionTerm, injective.eq_iff, Option.some.injEq]

theorem bool_inj {b b' : Bool} : boolTerm b = boolTerm b' ↔ b = b' := by
  cases b <;> cases b' <;> simp [boolTerm, boolName]

theorem policy_injective : Function.Injective policyTerm := by
  intro p p' same
  have given := Term.struct_injective same rfl (by simp)
  cases p
  cases p'
  simpa [text_inj, capNames.set_inj, egressNames.set_inj, confNames.atom_inj, integNames.atom_inj] using given

theorem inspection_injective : Function.Injective inspectionTerm := by
  intro x x' same
  have given := Term.struct_injective same rfl (by simp)
  cases x
  cases x'
  simpa [text_inj, bool_inj] using given

theorem resolution_injective : Function.Injective resolutionTerm := by
  intro x x' same
  have given := Term.struct_injective same rfl (by simp)
  cases x
  cases x'
  simpa [text_inj, outcomeNames.atom_inj] using given

theorem evidence_injective : Function.Injective evidenceTerm := by
  intro x x' same
  have given := Term.struct_injective same rfl (by simp)
  cases x
  cases x'
  simpa [text_inj, bool_inj] using given

theorem conf_option_inj {l l' : Option ConfLevel} :
    optionTerm (fun l => Term.atom (confName l)) l = optionTerm (fun l => .atom (confName l)) l' ↔ l = l' :=
  option_inj (fun l => by cases l <;> rfl) fun _ _ same => confNames.atom_inj.mp same

theorem cross_injective : Function.Injective crossTerm := by
  intro q q' same
  have given := Term.struct_injective same rfl (by simp)
  have evidence := @option_inj _ evidenceTerm (fun _ => rfl) evidence_injective q.evidence q'.evidence
  cases q
  cases q'
  simpa [text_inj, fallbackNames.atom_inj, confNames.atom_inj, integNames.atom_inj, conf_option_inj,
    evidence] using given

theorem command_injective : Function.Injective commandTerm := by
  intro c c' same
  have name : commandName c = commandName c' := commandModules.injective (Term.struct_tag same)
  have named : (commandGiven c).map Prod.fst = (commandGiven c').map Prod.fst := by
    rw [commandGiven_named, commandGiven_named, name]
  have given := Term.struct_injective same named (by rw [commandGiven_named]; exact commandFields_distinct _)
  have src := @option_inj _ text (fun _ => rfl) fun _ _ same => text_inj.mp same
  have resolution := @option_inj _ resolutionTerm (fun _ => rfl) resolution_injective
  cases c <;> cases c' <;> simp only [commandName, reduceCtorEq] at name
  all_goals simpa [commandGiven, text_inj, capNames.atom_inj, Int.natCast_inj, UInt32.toNat_inj, src,
    resolution, confNames.atom_inj, integNames.atom_inj, outcomeNames.atom_inj, policy_injective.eq_iff, egressNames.set_inj, bool_inj,
    inspection_injective.eq_iff, cross_injective.eq_iff] using given

theorem action_injective : Function.Injective actionTerm := by
  intro act act' same
  have name : actionName act = actionName act' := actionModules.injective (Term.struct_tag same)
  have named : (actionGiven act).map Prod.fst = (actionGiven act').map Prod.fst := by
    rw [actionGiven_named, actionGiven_named, name]
  have given := Term.struct_injective same named (by rw [actionGiven_named]; exact actionFields_distinct _)
  have src := @option_inj _ text (fun _ => rfl) fun _ _ same => text_inj.mp same
  cases act <;> cases act' <;> simp only [actionName, reduceCtorEq] at name
  all_goals simpa [actionGiven, text_inj, capNames.atom_inj, Int.natCast_inj, UInt32.toNat_inj, src,
    confNames.atom_inj, integNames.atom_inj, outcomeNames.atom_inj, dispositionNames.atom_inj, verdictNames.atom_inj,
    branchNames.atom_inj, bool_inj] using given

theorem background_injective : Function.Injective backgroundTerm := by
  intro bg bg' same
  have given := Term.struct_injective same rfl (by simp)
  have ceilings : ∀ value value' : EgressKind → Option (Option ConfLevel),
      ceilingTerm value = ceilingTerm value' → value = value' := by
    intro value value' same
    funext e
    have read := @field_ceilingTerm value e
    rw [same, field_ceilingTerm] at read
    exact Option.map_injective (fun _ _ => conf_option_inj.mp) read.symm
  cases bg
  cases bg'
  simp only [List.cons.injEq, Prod.mk.injEq, modeNames.atom_inj, true_and, and_true] at given
  simp [given.1, ceilings _ _ given.2.1, ceilings _ _ given.2.2]

end Terms

end ExArgus
