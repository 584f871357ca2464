import Einsof.Host.Acceptance

namespace ExArgus

open Argus Erlang Erlang.Check Fallible

/-! The untyped validation of a recovery agrees with the typed one. -/

namespace Terms

def digestTerm (d : DigestN) : Term := .binary ⟨d.bytes.toArray⟩

def envelopeTerm (e : EnvelopeN) : Term :=
  .struct "Elixir.ExArgus.Envelope"
    [("version", .integer e.version.toNat), ("sequence", .integer e.sequence.toNat),
      ("previous_digest", digestTerm e.previousDigest), ("digest", digestTerm e.digest),
      ("command", commandTerm e.command), ("action", actionTerm e.action)]

def chainTerm (c : ChainN) : Term :=
  .struct "Elixir.ExArgus.Chain"
    [("version", .integer c.version.toNat), ("sequence", .integer c.sequence.toNat),
      ("head", digestTerm c.head)]

theorem bytes_text (s : String) : bytes (text s) = s.utf8ByteSize := rfl

theorem bytes_option (s : Option String) : bytes (optionTerm text s) = Validation.optionalBytes s := by
  cases s <;> rfl

theorem policyContent_term (p : ActionPolicySnapshotN) :
    policyContent (policyTerm p) = Validation.policyContent p := by
  simp [policyContent, policyTerm, Term.get_struct, List.lookup_cons, bytes_text, Validation.policyContent]

theorem inspectionContent_term (x : InspectionAttestationN) :
    inspectionContent (inspectionTerm x) = Validation.inspectionContent x := by
  simp [inspectionContent, inspectionTerm, Term.get_struct, List.lookup_cons, bytes_text,
    Validation.inspectionContent]

theorem resolutionContent_term (x : Option ResolutionAttestationN) :
    resolutionContent (optionTerm resolutionTerm x) = Validation.resolutionContent x := by
  cases x with
  | none => rfl
  | some x =>
    simp [resolutionContent, optionTerm, resolutionTerm, Term.get_struct, List.lookup_cons, bytes_text,
      Validation.resolutionContent]

theorem evidenceContent_term (x : Option ConformanceAttestationN) :
    evidenceContent (optionTerm evidenceTerm x) = Validation.evidenceContent x := by
  cases x with
  | none => rfl
  | some x =>
    simp [evidenceContent, optionTerm, evidenceTerm, Term.get_struct, List.lookup_cons, bytes_text,
      Validation.evidenceContent]

theorem crossContent_term (q : CrossInputN) : crossContent (crossTerm q) = Validation.crossContent q := by
  simp [crossContent, crossTerm, Term.get_struct, List.lookup_cons, bytes_text, evidenceContent_term,
    Validation.crossContent]

theorem commandContent_term (c : CommandN) : commandContent (commandTerm c) = Validation.commandContent c := by
  rw [commandContent, commandTerm, find_struct commandModules.injective]
  cases c <;> simp [commandName, commandGiven, Term.get_struct, List.lookup_cons, bytes_text, bytes_option,
    policyContent_term, inspectionContent_term, resolutionContent_term, crossContent_term,
    Validation.commandContent]

theorem actionContent_term (act : ActionN) : actionContent (actionTerm act) = Validation.actionContent act := by
  rw [actionContent, actionTerm, find_struct actionModules.injective]
  cases act <;> simp [actionName, actionGiven, Term.get_struct, List.lookup_cons, bytes_text, bytes_option,
    Validation.actionContent]

section Checks

variable {α : Type} {path : List Place} {index : Option Nat}

theorem reported_putIndex {x : Except Error α} {index : Nat} :
    reported (Validation.putIndex x index) = putIndex (reported x) index := by
  cases x <;> rfl

theorem putIndex_map {β : Type} {x : Except Refusal α} {f : α → β} {index : Nat} :
    putIndex (x >>= fun a => pure (f a)) index = putIndex x index >>= fun a => pure (f a) := by
  cases x <;> rfl

theorem version_term (version : UInt32) : recoveryVersion index (.integer version.toNat) path =
    reported (Validation.recoveryVersion version index) >>= fun _ => pure (.integer version.toNat) := by
  have five : (version.toNat : Int) = 5 ↔ version = 5 := by
    rw [← UInt32.toNat_inj]
    exact Int.ofNat_inj
  simp only [recoveryVersion, Validation.recoveryVersion, five]
  split_ifs <;> rfl

theorem sequence_term (sequence : UInt64) :
    envelopeSequence (.integer sequence.toNat) [.field "sequence"] =
      reported (Validation.envelopeSequence sequence) >>= fun _ => pure (.integer sequence.toNat) := by
  have range : (0 < (sequence.toNat : Int) ∧ (sequence.toNat : Int) ≤ maxAcceptedSequence.toNat) ↔
      0 < sequence ∧ sequence ≤ maxAcceptedSequence := by
    rw [UInt64.lt_iff_toNat_lt, UInt64.le_iff_toNat_le]
    exact and_congr Int.natCast_pos Int.ofNat_le
  simp only [envelopeSequence, Validation.envelopeSequence, range]
  split_ifs <;> rfl

theorem chainSequence_term (sequence : UInt64) :
    chainSequence (.integer sequence.toNat) [.field "sequence"] =
      reported (Validation.chainSequence sequence) >>= fun _ => pure (.integer sequence.toNat) := by
  have range : (0 ≤ (sequence.toNat : Int) ∧ (sequence.toNat : Int) ≤ maxAcceptedSequence.toNat) ↔
      sequence ≤ maxAcceptedSequence := by
    rw [UInt64.le_iff_toNat_le]
    exact (and_iff_right (Int.natCast_nonneg _)).trans Int.ofNat_le
  simp only [chainSequence, Validation.chainSequence, range]
  split_ifs <;> rfl

theorem digest_term (d : DigestN) : digest (digestTerm d) path = pure (digestTerm d) := by
  have size : ByteArray.size ⟨d.bytes.toArray⟩ = 32 := d.bytes.size_toArray
  simp only [digest, digestTerm, if_pos size]
  rfl

theorem sameBinary_term (d d' : DigestN) : sameBinary (digestTerm d) (digestTerm d') = decide (d = d') := by
  obtain ⟨⟨bytes, size⟩⟩ := d
  obtain ⟨⟨bytes', size'⟩⟩ := d'
  simp [sameBinary, digestTerm]

theorem envelopeContent_term (c : CommandN) (act : ActionN) :
    envelopeContent (commandTerm c) (actionTerm act) = reported (Validation.envelopeContent c act) := by
  have content : ∀ total bytes, checkedReplayContent total bytes =
      reported (Validation.checkedReplayContent total bytes) := by
    intro total bytes
    simp only [checkedReplayContent, Validation.checkedReplayContent]
    split_ifs <;> rfl
  simp only [envelopeContent, Validation.envelopeContent, commandContent_term, actionContent_term, content,
    reported_bind]

theorem envelopeCommand_term (c : CommandN) : envelopeCommand (commandTerm c) [.field "command"] =
    reported (Validation.envelopeCommand c) >>= fun c => pure (commandTerm c) := by
  simp only [envelopeCommand, command_term, Validation.envelopeCommand]
  cases Validation.command c <;> rfl

end Checks

section Agreement

/-- The answer of the typed check of an envelope, in terms. -/
def envelopeTerms (checked : EnvelopeN × Nat) : Term × Nat := (envelopeTerm checked.1, checked.2)

theorem envelope_term (e : EnvelopeN) (index : Nat) : envelope (envelopeTerm e) index =
    reported (Validation.envelope e index) >>= fun checked => pure (envelopeTerms checked) := by
  have action := @action_term [.action] e.action
  have record : struct "Elixir.ExArgus.Envelope"
      [("version", recoveryVersion (some index)), ("sequence", envelopeSequence),
        ("previous_digest", digest), ("digest", digest), ("command", envelopeCommand), ("action", Terms.action)]
      (envelopeTerm e) [] = (do
        reported (Validation.recoveryVersion e.version (some index))
        reported (Validation.envelopeSequence e.sequence)
        let command ← reported (Validation.envelopeCommand e.command)
        let action ← reported (Validation.action e.action [.action])
        return envelopeTerm { e with command := command, action := action }) := by
    rw [struct, envelopeTerm, Check.record_struct (by simp) rfl]
    simp only [List.map, Check.fields_cons, Check.fields_nil, version_term, sequence_term, digest_term,
      envelopeCommand_term, places, Field.name, List.nil_append] at action ⊢
    simp only [action, bind_assoc, pure_bind]
    rfl
  have read : ∀ (command : CommandN) (action : ActionN),
      (envelopeTerm { e with command := command, action := action }).get "command" = commandTerm command ∧
        (envelopeTerm { e with command := command, action := action }).get "action" = actionTerm action := by
    intro command action
    constructor <;> simp [envelopeTerm, Term.get_struct, List.lookup_cons]
  rw [envelope, record, Validation.envelope, reported_putIndex, ← putIndex_map]
  simp only [reported_bind, reported_pure, bind_assoc, pure_bind, (read _ _).1, (read _ _).2,
    envelopeContent_term]
  rfl

theorem declaredSequence_term (sequence : UInt64) (index : Nat) :
    declaredSequence (.integer sequence.toNat) index = reported (Validation.declaredSequence sequence index) := by
  have numbered : (sequence.toNat : Int) = index + 1 ↔ sequence.toNat = index + 1 := by omega
  simp only [declaredSequence, Validation.declaredSequence, numbered]
  split_ifs <;> rfl

theorem predecessor_term (previousDigest : DigestN) (expected : Option DigestN) (index : Nat) :
    predecessor (digestTerm previousDigest) (expected.map digestTerm) index =
      reported (Validation.predecessor previousDigest expected index) := by
  cases expected with
  | none =>
    simp only [predecessor, Option.map_none, Validation.predecessor, reduceCtorEq, or_false, true_and]
    split_ifs <;> rfl
  | some digest =>
    simp only [predecessor, Option.map_some, Validation.predecessor, reduceCtorEq, false_and, false_or,
      sameBinary_term, decide_eq_true_eq, Option.some.injEq, @eq_comm _ digest]
    split_ifs <;> rfl

/-- The answer of the typed check of a history, in terms. -/
def historyTerms (checked : List EnvelopeN × Nat × Option DigestN) : List Term × Nat × Option Term :=
  (checked.1.map envelopeTerm, checked.2.1, checked.2.2.map digestTerm)

theorem history_term (recorded : List EnvelopeN) (index : Nat) (lastDigest : Option DigestN) (content : Nat)
    (normalized : List EnvelopeN) :
    history (.ofList (recorded.map envelopeTerm)) index (lastDigest.map digestTerm) content
        (normalized.map envelopeTerm) =
      reported (Validation.history recorded index lastDigest content normalized) >>= fun checked =>
        pure (historyTerms checked) := by
  induction recorded generalizing index lastDigest content normalized with
  | nil =>
    simp only [List.map_nil, Term.ofList, history, Validation.history, reported_ok]
    rw [← List.map_reverse]
    rfl
  | cons recorded tail ih =>
    have count : checkedRecoveryCount index = reported (Validation.checkedRecoveryCount index) := by
      simp only [checkedRecoveryCount, Validation.checkedRecoveryCount]
      split_ifs <;> rfl
    have total : ∀ bytes, putIndex (checkedReplayContent content bytes) index =
        reported (Validation.putIndex (Validation.checkedReplayContent content bytes) index) := by
      intro bytes
      simp only [checkedReplayContent, Validation.checkedReplayContent]
      split_ifs <;> rfl
    have read : ∀ e : EnvelopeN, (envelopeTerm e).get "sequence" = .integer e.sequence.toNat ∧
        (envelopeTerm e).get "previous_digest" = digestTerm e.previousDigest ∧
        (envelopeTerm e).get "digest" = digestTerm e.digest := by
      intro e
      refine ⟨?_, ?_, ?_⟩ <;> simp [envelopeTerm, Term.get_struct, List.lookup_cons]
    have rest : ∀ (e : EnvelopeN) next, history (.ofList (tail.map envelopeTerm)) (index + 1)
        (some (digestTerm e.digest)) next (envelopeTerm e :: normalized.map envelopeTerm) =
        reported (Validation.history tail (index + 1) (some e.digest) next (e :: normalized)) >>=
          fun checked => pure (historyTerms checked) :=
      fun e next => ih (index + 1) (some e.digest) next (e :: normalized)
    rw [List.map_cons, Term.ofList, history, Validation.history]
    simp only [count, envelope_term, envelopeTerms, (read _).1, (read _).2.1, (read _).2.2,
      declaredSequence_term, predecessor_term, total, rest, reported_bind, bind_assoc, pure_bind]

theorem chain_term (c : ChainN) :
    chain (chainTerm c) = reported (Validation.chain c) >>= fun _ => pure (chainTerm c) := by
  rw [chain, struct, chainTerm, Check.record_struct (by decide) rfl]
  simp only [List.map, Check.fields_cons, Check.fields_nil, version_term, chainSequence_term, digest_term,
    Validation.chain, reported_bind, List.nil_append, bind_assoc, pure_bind]
  rfl

theorem expectedSequence_term (declared : UInt64) (actual : Nat) :
    expectedSequence (.integer declared.toNat) actual =
      reported (Validation.expectedSequence declared actual) := by
  simp only [expectedSequence, Validation.expectedSequence, Int.ofNat_inj]
  split_ifs <;> rfl

theorem expectedHead_term (head : DigestN) (lastDigest : Option DigestN) :
    expectedHead (digestTerm head) (lastDigest.map digestTerm) =
      reported (Validation.expectedHead head lastDigest) := by
  cases lastDigest with
  | none => rfl
  | some digest =>
    simp only [expectedHead, Option.map_some, Validation.expectedHead, reduceCtorEq, false_or,
      sameBinary_term, decide_eq_true_eq, Option.some.injEq, @eq_comm _ digest]
    split_ifs <;> rfl

theorem recovery_term (bg : BackgroundN) (recorded : List EnvelopeN) (expected : ChainN) :
    recovery (backgroundTerm bg) (.ofList (recorded.map envelopeTerm)) (chainTerm expected) =
      reported (Validation.recovery bg recorded expected) >>= fun checked =>
        pure (backgroundTerm checked.1, checked.2.map envelopeTerm, chainTerm expected) := by
  have checked := history_term recorded 0 none 0 []
  have read : (chainTerm expected).get "sequence" = .integer expected.sequence.toNat ∧
      (chainTerm expected).get "head" = digestTerm expected.head := by
    constructor <;> simp [chainTerm, Term.get_struct, List.lookup_cons]
  simp only [Option.map_none, List.map_nil] at checked
  simp only [recovery, Validation.recovery, background_term, checked, historyTerms, chain_term, read.1,
    read.2, expectedSequence_term, expectedHead_term, reported_bind, reported_pure, bind_assoc, pure_bind]

end Agreement

section Only

theorem version_only {index : Option Nat} :
    Only (fun version : UInt32 => .integer version.toNat) (recoveryVersion index) := by
  intro t path t' passed
  cases t with
  | integer n =>
    simp only [recoveryVersion] at passed
    split_ifs at passed with five
    exact ⟨5, by rw [five]; rfl⟩
  | _ => cases passed

theorem integer_of_bound {n : Int} (positive : 0 ≤ n) (bounded : n ≤ maxAcceptedSequence.toNat) :
    ∃ sequence : UInt64, n = sequence.toNat := by
  have limit : maxAcceptedSequence.toNat < 2 ^ 64 := maxAcceptedSequence.toNat_lt
  have small : n.toNat < 2 ^ 64 := by omega
  refine ⟨UInt64.ofNat n.toNat, ?_⟩
  rw [UInt64.toNat_ofNat_of_lt' small, Int.toNat_of_nonneg positive]

theorem sequence_only : Only (fun sequence : UInt64 => .integer sequence.toNat) envelopeSequence := by
  intro t path t' passed
  cases t with
  | integer n =>
    simp only [envelopeSequence] at passed
    split_ifs at passed with range
    obtain ⟨sequence, rfl⟩ := integer_of_bound (Int.le_of_lt range.1) range.2
    exact ⟨sequence, rfl⟩
  | _ => cases passed

theorem chainSequence_only : Only (fun sequence : UInt64 => .integer sequence.toNat) chainSequence := by
  intro t path t' passed
  cases t with
  | integer n =>
    simp only [chainSequence] at passed
    split_ifs at passed with range
    obtain ⟨sequence, rfl⟩ := integer_of_bound range.1 range.2
    exact ⟨sequence, rfl⟩
  | _ => cases passed

theorem digest_only : Only digestTerm digest := by
  intro t path t' passed
  cases t with
  | binary bytes =>
    simp only [digest] at passed
    split_ifs at passed with size
    exact ⟨⟨⟨bytes.data, size⟩⟩, rfl⟩
  | _ => cases passed

theorem envelopeCommand_only : Only commandTerm envelopeCommand := by
  intro t path t' passed
  exact command_only (mapError_ok.mp passed)

theorem envelope_only {t : Term} {index : Nat} {checked : Term × Nat} (passed : envelope t index = .ok checked) :
    ∃ e, t = envelopeTerm e := by
  obtain ⟨normalized, passed, -⟩ := bind_ok.mp (mapError_ok.mp passed)
  obtain ⟨⟨version, sequence, previous, digest, command, action, _⟩, rfl⟩ := Forms.record
    (version_only.cons <| sequence_only.cons <| digest_only.cons <| digest_only.cons <|
      envelopeCommand_only.cons <| Only.cons (fun _ _ _ => action_only) <| Forms.nil) (by simp) _ _ _ passed
  exact ⟨⟨version, sequence, previous, digest, command, action⟩, rfl⟩

theorem history_only {t : Term} {index content : Nat} {lastDigest : Option Term} {normalized : List Term}
    {checked : List Term × Nat × Option Term} (passed : history t index lastDigest content normalized = .ok checked) :
    ∃ recorded : List EnvelopeN, t = .ofList (recorded.map envelopeTerm) := by
  induction t generalizing index content lastDigest normalized with
  | empty => exact ⟨[], rfl⟩
  | cons head tail _ ih =>
    simp only [history, bind_ok] at passed
    obtain ⟨_, _, _, first, _, _, _, _, _, _, passed⟩ := passed
    obtain ⟨e, rfl⟩ := envelope_only first
    obtain ⟨recorded, rfl⟩ := ih passed
    exact ⟨e :: recorded, rfl⟩
  | _ => cases passed

theorem chain_only {t t' : Term} (passed : chain t = .ok t') : ∃ c, t = chainTerm c := by
  obtain ⟨⟨version, sequence, head, _⟩, rfl⟩ := Forms.record
    (version_only.cons <| chainSequence_only.cons <| digest_only.cons <| Forms.nil) (by decide) _ _ _ passed
  exact ⟨⟨version, sequence, head⟩, rfl⟩

end Only

end Terms

/-- A recovery is accepted when its terms are those of a typed recovery that the typed validation accepts,
    and the answer is the terms of the normalized one. -/
theorem untyped_recovery (b h c b' c' : Term) (h' : List Term) :
    Terms.recovery b h c = .ok (b', h', c') ↔
      ∃ bg recorded expected bg' normalized, b = Terms.backgroundTerm bg ∧
        h = .ofList (recorded.map Terms.envelopeTerm) ∧ c = Terms.chainTerm expected ∧
        Validation.recovery bg recorded expected = .ok (bg', normalized) ∧
        b' = Terms.backgroundTerm bg' ∧ h' = normalized.map Terms.envelopeTerm ∧ c' = c := by
  constructor
  · intro passed
    have parts := passed
    simp only [Terms.recovery, bind_ok] at parts
    obtain ⟨_, background, ⟨_, _, _⟩, history, _, chain, -⟩ := parts
    obtain ⟨bg, rfl⟩ := Terms.background_only background
    obtain ⟨recorded, rfl⟩ := Terms.history_only history
    obtain ⟨expected, rfl⟩ := Terms.chain_only chain
    rw [Terms.recovery_term, bind_ok] at passed
    obtain ⟨⟨bg', normalized⟩, typed, answer⟩ := passed
    cases answer
    exact ⟨bg, recorded, expected, bg', normalized, rfl, rfl, rfl, mapError_ok.mp typed, rfl, rfl, rfl⟩
  · intro parts
    obtain ⟨bg, recorded, expected, bg', normalized, rfl, rfl, rfl, typed, rfl, rfl, rfl⟩ := parts
    rw [Terms.recovery_term, typed]
    rfl

end ExArgus
