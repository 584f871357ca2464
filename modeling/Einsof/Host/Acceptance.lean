import Einsof.Host.Unambiguous

namespace ExArgus

open Argus Erlang Erlang.Check Fallible

namespace Terms

theorem checkOpaque_only : Only text checkOpaque := by
  intro t path t' passed
  cases t with
  | binary bytes =>
    simp only [checkOpaque] at passed
    split_ifs at passed with empty large valid
    exact ⟨⟨bytes, valid⟩, rfl⟩
  | _ => cases passed

section Enum

variable {α : Type} {all : List α} {name : α → String} {allowed : List String} {term : α → Term}

theorem Names.find (names : Names all name allowed) {n : String} (listed : n ∈ allowed) : ∃ a, n = name a := by
  rw [names.listed] at listed
  obtain ⟨a, -, same⟩ := List.mem_map.mp listed
  exact ⟨a, same.symm⟩

theorem Names.only (names : Names all name allowed) : Only (fun a => .atom (name a)) (Terms.enum allowed) := by
  intro t path t' passed
  cases t with
  | atom n =>
    simp only [Terms.enum] at passed
    split_ifs at passed with listed
    obtain ⟨a, rfl⟩ := names.find listed
    exact ⟨a, rfl⟩
  | _ => cases passed

theorem boolean_only : Only boolTerm boolean := by
  intro t path t' passed
  cases t with
  | atom n =>
    simp only [boolean] at passed
    split_ifs at passed with truth
    rcases truth with rfl | rfl
    · exact ⟨true, rfl⟩
    · exact ⟨false, rfl⟩
  | _ => cases passed

theorem u32_only : Only (fun n : UInt32 => .integer n.toNat) u32 := by
  intro t path t' passed
  cases t with
  | integer n =>
    simp only [u32] at passed
    split_ifs at passed with inside
    have bound : n.toNat < 2 ^ 32 := by omega
    refine ⟨UInt32.ofNat n.toNat, ?_⟩
    simp only [UInt32.toNat_ofNat_of_lt' bound, Int.toNat_of_nonneg inside.1]
  | _ => cases passed

theorem optional_only {check : Check Refusal} (only : Only term check) :
    Only (optionTerm term) check.optional := by
  intro t path t' passed
  unfold Check.optional at passed
  split at passed
  · rename_i nil
    cases t with
    | atom n => exact ⟨none, by rw [optionTerm, of_decide_eq_true nil]⟩
    | _ => cases nil
  · obtain ⟨a, rfl⟩ := only t path t' passed
    exact ⟨some a, rfl⟩

/-- A proper list whose members are all listed. -/
theorem Names.members_only (names : Names all name allowed) {t : Term} {maximum count index : Nat}
    {path : List Place} (proper : boundedProperList t maximum count = .proper)
    (members : setMembers allowed path t index = .ok ()) : ∃ xs, t = setTerm name xs := by
  induction t generalizing count index with
  | empty => exact ⟨[], rfl⟩
  | cons head tail _ ih =>
    rw [boundedProperList] at proper
    split_ifs at proper
    rw [setMembers, bind_ok] at members
    obtain ⟨_, first, others⟩ := members
    obtain ⟨x, rfl⟩ := names.only _ _ _ first
    obtain ⟨xs, rfl⟩ := ih proper others
    exact ⟨x :: xs, rfl⟩
  | _ => cases proper

theorem Names.set_only (names : Names all name allowed) (maximum : Nat) :
    Only (setTerm name) (Terms.set allowed maximum) := by
  intro t path t' passed
  simp only [Terms.set] at passed
  split at passed
  · rename_i proper
    obtain ⟨u, members, -⟩ := bind_ok.mp passed
    exact names.members_only proper members
  · cases passed
  · cases passed

end Enum

section Records

variable {t t' : Term} {path : List Place}

theorem policy_only : Only policyTerm policy := by
  intro t path t' passed
  obtain ⟨⟨tool, caps, clearance, floor, inspect, conf, integ, egress, digest, _⟩, rfl⟩ := Forms.record
    (checkOpaque_only.cons <| (capNames.set_only _).cons <| confNames.only.cons <| integNames.only.cons <|
      integNames.only.cons <| confNames.only.cons <| integNames.only.cons <| (egressNames.set_only _).cons <|
      checkOpaque_only.cons <| Forms.nil) (by decide) _ _ _ passed
  exact ⟨⟨tool, caps, clearance, floor, inspect, conf, integ, egress, digest⟩, rfl⟩

theorem inspection_only : Only inspectionTerm inspection := by
  intro t path t' passed
  obtain ⟨⟨id, inv, challenge, hash, digest, positive, _⟩, rfl⟩ := Forms.record
    (checkOpaque_only.cons <| checkOpaque_only.cons <| checkOpaque_only.cons <| checkOpaque_only.cons <|
      checkOpaque_only.cons <| boolean_only.cons <| Forms.nil) (by decide) _ _ _ passed
  exact ⟨⟨id, inv, challenge, hash, digest, positive⟩, rfl⟩

theorem resolution_only : Only resolutionTerm resolution := by
  intro t path t' passed
  obtain ⟨⟨id, inv, outcome, _⟩, rfl⟩ := Forms.record
    (checkOpaque_only.cons <| checkOpaque_only.cons <| outcomeNames.only.cons <| Forms.nil) (by decide) _ _ _ passed
  exact ⟨⟨id, inv, outcome⟩, rfl⟩

theorem evidence_only : Only evidenceTerm evidence := by
  intro t path t' passed
  obtain ⟨⟨id, output, src, rcv, descriptor, assignment, positive, _⟩, rfl⟩ := Forms.record
    (checkOpaque_only.cons <| checkOpaque_only.cons <| checkOpaque_only.cons <| checkOpaque_only.cons <|
      checkOpaque_only.cons <| checkOpaque_only.cons <| boolean_only.cons <| Forms.nil) (by decide) _ _ _ passed
  exact ⟨⟨id, output, src, rcv, descriptor, assignment, positive⟩, rfl⟩

theorem crossInput_only : Only crossTerm crossInput := by
  intro t path t' passed
  obtain ⟨⟨src, rcv, crossing, hash, descriptor, fallback, floor, ceiling, assignment, evidence, conf, integ,
    _⟩, rfl⟩ := Forms.record
    (checkOpaque_only.cons <| checkOpaque_only.cons <| checkOpaque_only.cons <| checkOpaque_only.cons <|
      checkOpaque_only.cons <| fallbackNames.only.cons <| integNames.only.cons <|
      (optional_only confNames.only).cons <| checkOpaque_only.cons <| (optional_only evidence_only).cons <|
      confNames.only.cons <| integNames.only.cons <| Forms.nil) (by decide) _ _ _ passed
  exact ⟨⟨src, rcv, crossing, hash, descriptor, fallback, floor, ceiling, assignment, evidence, conf, integ⟩, rfl⟩

theorem command_only (passed : command t = .ok t') : ∃ c, t = commandTerm c := by
  unfold command at passed
  split at passed
  · rename_i name _
    have distinct := commandFields_distinct name
    cases name with
    | registerTool =>
      obtain ⟨⟨tool, _⟩, rfl⟩ := Forms.record
        (checkOpaque_only.cons <| Forms.nil) distinct _ _ _ passed
      exact ⟨.registerTool tool, rfl⟩
    | unregisterTool =>
      obtain ⟨⟨tool, _⟩, rfl⟩ := Forms.record
        (checkOpaque_only.cons <| Forms.nil) distinct _ _ _ passed
      exact ⟨.unregisterTool tool, rfl⟩
    | delegate =>
      obtain ⟨⟨grantor, grantee, _⟩, rfl⟩ := Forms.record
        (checkOpaque_only.cons <| checkOpaque_only.cons <| Forms.nil) distinct _ _ _ passed
      exact ⟨.delegate grantor grantee, rfl⟩
    | grantCapability =>
      obtain ⟨⟨parent, child, cap, _⟩, rfl⟩ := Forms.record
        (checkOpaque_only.cons <| checkOpaque_only.cons <| capNames.only.cons <| Forms.nil) distinct _ _ _ passed
      exact ⟨.grantCapability parent child cap, rfl⟩
    | grantCrossing =>
      obtain ⟨⟨grantor, agent, assignment, n, _⟩, rfl⟩ := Forms.record
        (checkOpaque_only.cons <| checkOpaque_only.cons <| checkOpaque_only.cons <| u32_only.cons <|
          Forms.nil) distinct _ _ _ passed
      exact ⟨.grantCrossing grantor agent assignment n, rfl⟩
    | revoke =>
      obtain ⟨⟨parent, target, _⟩, rfl⟩ := Forms.record
        (checkOpaque_only.cons <| checkOpaque_only.cons <| Forms.nil) distinct _ _ _ passed
      exact ⟨.revoke parent target, rfl⟩
    | cascadeRevoke =>
      obtain ⟨⟨child, parent, _⟩, rfl⟩ := Forms.record
        (checkOpaque_only.cons <| checkOpaque_only.cons <| Forms.nil) distinct _ _ _ passed
      exact ⟨.cascadeRevoke child parent, rfl⟩
    | ingest =>
      obtain ⟨⟨agent, src, conf, integ, _⟩, rfl⟩ := Forms.record
        (checkOpaque_only.cons <| (optional_only checkOpaque_only).cons <| confNames.only.cons <|
          integNames.only.cons <| Forms.nil) distinct _ _ _ passed
      exact ⟨.ingest agent src conf integ, rfl⟩
    | beginInvocation =>
      obtain ⟨⟨agent, inv, challenge, policy, egress, hash, authorized, _⟩, rfl⟩ := Forms.record
        (checkOpaque_only.cons <| checkOpaque_only.cons <| checkOpaque_only.cons <| policy_only.cons <|
          (egressNames.set_only _).cons <| checkOpaque_only.cons <| boolean_only.cons <| Forms.nil)
        distinct _ _ _ passed
      exact ⟨.beginInvocation agent inv challenge policy egress hash authorized, rfl⟩
    | authorizeInspected =>
      obtain ⟨⟨inv, attestation, _⟩, rfl⟩ := Forms.record
        (checkOpaque_only.cons <| inspection_only.cons <| Forms.nil) distinct _ _ _ passed
      exact ⟨.authorizeInspected inv attestation, rfl⟩
    | settleInvocation =>
      obtain ⟨⟨inv, outcome, resolution, _⟩, rfl⟩ := Forms.record
        (checkOpaque_only.cons <| outcomeNames.only.cons <| (optional_only resolution_only).cons <| Forms.nil)
        distinct _ _ _ passed
      exact ⟨.settleInvocation inv outcome resolution, rfl⟩
    | crossOutput =>
      obtain ⟨⟨input, _⟩, rfl⟩ := Forms.record
        (crossInput_only.cons <| Forms.nil) distinct _ _ _ passed
      exact ⟨.crossOutput input, rfl⟩
  · cases passed

theorem quarantine_only (passed : quarantineResolution t = .ok t') : ∃ c, t = commandTerm c := by
  unfold quarantineResolution commandFor at passed
  split at passed
  · obtain ⟨normalized, checked, -⟩ := bind_ok.mp passed
    exact command_only checked
  · cases passed

theorem action_only (passed : action t path = .ok t') : ∃ act, t = actionTerm act := by
  unfold action at passed
  split at passed
  · rename_i name _
    have distinct := actionFields_distinct name
    cases name with
    | registerTool =>
      obtain ⟨⟨tool, _⟩, rfl⟩ := Forms.record
        (checkOpaque_only.cons <| Forms.nil) distinct _ _ _ passed
      exact ⟨.registerTool tool, rfl⟩
    | unregisterTool =>
      obtain ⟨⟨tool, _⟩, rfl⟩ := Forms.record
        (checkOpaque_only.cons <| Forms.nil) distinct _ _ _ passed
      exact ⟨.unregisterTool tool, rfl⟩
    | delegate =>
      obtain ⟨⟨grantor, grantee, _⟩, rfl⟩ := Forms.record
        (checkOpaque_only.cons <| checkOpaque_only.cons <| Forms.nil) distinct _ _ _ passed
      exact ⟨.delegate grantor grantee, rfl⟩
    | grantCapability =>
      obtain ⟨⟨parent, child, cap, _⟩, rfl⟩ := Forms.record
        (checkOpaque_only.cons <| checkOpaque_only.cons <| capNames.only.cons <| Forms.nil) distinct _ _ _ passed
      exact ⟨.grantCapability parent child cap, rfl⟩
    | grantCrossing =>
      obtain ⟨⟨grantor, agent, assignment, n, _⟩, rfl⟩ := Forms.record
        (checkOpaque_only.cons <| checkOpaque_only.cons <| checkOpaque_only.cons <| u32_only.cons <|
          Forms.nil) distinct _ _ _ passed
      exact ⟨.grantCrossing grantor agent assignment n, rfl⟩
    | revoke =>
      obtain ⟨⟨parent, target, _⟩, rfl⟩ := Forms.record
        (checkOpaque_only.cons <| checkOpaque_only.cons <| Forms.nil) distinct _ _ _ passed
      exact ⟨.revoke parent target, rfl⟩
    | cascadeRevoke =>
      obtain ⟨⟨child, parent, _⟩, rfl⟩ := Forms.record
        (checkOpaque_only.cons <| checkOpaque_only.cons <| Forms.nil) distinct _ _ _ passed
      exact ⟨.cascadeRevoke child parent, rfl⟩
    | ingest =>
      obtain ⟨⟨agent, src, conf, integ, disposition, _⟩, rfl⟩ := Forms.record
        (checkOpaque_only.cons <| (optional_only checkOpaque_only).cons <| confNames.only.cons <|
          integNames.only.cons <| dispositionNames.only.cons <| Forms.nil) distinct _ _ _ passed
      exact ⟨.ingest agent src conf integ disposition, rfl⟩
    | beginInvocation =>
      obtain ⟨⟨agent, inv, tool, verdict, authorized, _⟩, rfl⟩ := Forms.record
        (checkOpaque_only.cons <| checkOpaque_only.cons <| checkOpaque_only.cons <| verdictNames.only.cons <|
          boolean_only.cons <| Forms.nil) distinct _ _ _ passed
      exact ⟨.beginInvocation agent inv tool verdict authorized, rfl⟩
    | authorizeInspected =>
      obtain ⟨⟨inv, attestation, admitted, _⟩, rfl⟩ := Forms.record
        (checkOpaque_only.cons <| checkOpaque_only.cons <| boolean_only.cons <| Forms.nil) distinct _ _ _ passed
      exact ⟨.authorizeInspected inv attestation admitted, rfl⟩
    | settleInvocation =>
      obtain ⟨⟨inv, agent, disposition, outcome, conf, integ, resolution, _⟩, rfl⟩ := Forms.record
        (checkOpaque_only.cons <| checkOpaque_only.cons <| dispositionNames.only.cons <|
          outcomeNames.only.cons <| confNames.only.cons <| integNames.only.cons <|
          (optional_only checkOpaque_only).cons <| Forms.nil) distinct _ _ _ passed
      exact ⟨.settleInvocation inv agent disposition outcome conf integ resolution, rfl⟩
    | crossOutput =>
      obtain ⟨⟨src, rcv, crossing, branch, disposition, _⟩, rfl⟩ := Forms.record
        (checkOpaque_only.cons <| checkOpaque_only.cons <| checkOpaque_only.cons <| branchNames.only.cons <|
          dispositionNames.only.cons <| Forms.nil) distinct _ _ _ passed
      exact ⟨.crossOutput src rcv crossing branch disposition, rfl⟩
  · cases passed

theorem conf_or_nil {n : String} (listed : n ∈ "nil" :: confLevels) :
    ∃ l : Option ConfLevel, Term.atom n = optionTerm (fun l => .atom (confName l)) l := by
  rcases List.mem_cons.mp listed with rfl | listed
  · exact ⟨none, rfl⟩
  · obtain ⟨l, rfl⟩ := confNames.find listed
    exact ⟨some l, rfl⟩

theorem ceiling_only : Only ceilingTerm ceiling := by
  intro t path t' passed
  cases t with
  | map keys values =>
    simp only [ceiling] at passed
    split at passed
    · rename_i exact
      split at passed
      · rename_i sound
        have each : ∀ e : EgressKind, ∃ l : Option ConfLevel,
            (Term.map keys values).get (egressName e) = optionTerm (fun l => .atom (confName l)) l := by
          intro e
          have good := List.find?_eq_none.mp sound _ (egressNames.listed ▸ List.mem_map_of_mem (EgressKind.mem_all e))
          split at good
          · rename_i n found
            rw [found]
            exact conf_or_nil (not_not.mp fun out => good (decide_eq_true out))
          · exact absurd rfl good
        choose value read using each
        refine ⟨fun e => some (value e), ?_⟩
        have all : ∀ e ∈ EgressKind.all, (some (value e)).isSome = true := fun _ _ => rfl
        rw [(Term.exactKeys_iff egressNames.distinct).mp exact, ceilingTerm, List.filter_eq_self.mpr all,
          ← egressNames.listed]
        apply Term.object_congr
        intro name listed
        obtain ⟨e, rfl⟩ := egressNames.find listed
        rw [read, find_egress]
        rfl
      · cases passed
    · cases passed
  | _ => cases passed

theorem background_only (passed : background t = .ok t') : ∃ bg, t = backgroundTerm bg := by
  obtain ⟨⟨mode, allow, inspect, _⟩, rfl⟩ := Forms.record
    (modeNames.only.cons <| ceiling_only.cons <| ceiling_only.cons <| Forms.nil) (by decide) _ _ _ passed
  exact ⟨⟨mode, allow, inspect⟩, rfl⟩

end Records

section Accepted

variable {α : Type} {term : α → Term} {t t' : Term}

/-- A check that answers as the typed one and accepts nothing but terms of typed values accepts the
    terms of the values that the typed one accepts. -/
theorem accepted_iff {check : Term → Except Refusal Term} {typed : α → Except Error α}
    (agree : ∀ a, check (term a) = reported (typed a) >>= fun a => pure (term a))
    (only : ∀ t t', check t = .ok t' → ∃ a, t = term a) :
    check t = .ok t' ↔ ∃ a a', t = term a ∧ typed a = .ok a' ∧ t' = term a' := by
  have passes : ∀ a t', check (term a) = .ok t' ↔ ∃ a', typed a = .ok a' ∧ t' = term a' := by
    intro a t'
    simp only [agree, bind_ok, reported, mapError_ok, pure_ok, @eq_comm _ t']
  constructor
  · intro passed
    obtain ⟨a, rfl⟩ := only t t' passed
    obtain ⟨a', typed, rfl⟩ := (passes a t').mp passed
    exact ⟨a, a', rfl, typed, rfl⟩
  · rintro ⟨a, a', rfl, typed, rfl⟩
    exact (passes a _).mpr ⟨a', typed, rfl⟩

end Accepted

end Terms

/-- The validators accept the terms of the values that the typed validation accepts, and answer with the
    terms of the normalized values; no two values have the same term. -/
theorem untyped_validation (t t' : Term) (path : List Field) :
    (Terms.command t = .ok t' ↔
      ∃ c c', t = Terms.commandTerm c ∧ Validation.command c = .ok c' ∧ t' = Terms.commandTerm c') ∧
    (Terms.quarantineResolution t = .ok t' ↔ ∃ c c', t = Terms.commandTerm c ∧
      Validation.quarantineResolution c = .ok c' ∧ t' = Terms.commandTerm c') ∧
    (Terms.action t (places path) = .ok t' ↔
      ∃ a a', t = Terms.actionTerm a ∧ Validation.action a path = .ok a' ∧ t' = Terms.actionTerm a') ∧
    (Terms.background t = .ok t' ↔ ∃ bg bg', t = Terms.backgroundTerm bg ∧
      Validation.background bg = .ok bg' ∧ t' = Terms.backgroundTerm bg') ∧
    Function.Injective Terms.commandTerm ∧ Function.Injective Terms.actionTerm ∧
    Function.Injective Terms.backgroundTerm :=
  ⟨Terms.accepted_iff Terms.command_term fun _ _ => Terms.command_only,
    Terms.accepted_iff Terms.quarantineResolution_term fun _ _ => Terms.quarantine_only,
    Terms.accepted_iff Terms.action_term fun _ _ => Terms.action_only,
    Terms.accepted_iff Terms.background_term fun _ _ => Terms.background_only, Terms.command_injective,
    Terms.action_injective, Terms.background_injective⟩

end ExArgus
