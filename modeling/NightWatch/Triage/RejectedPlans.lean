import NightWatch.Triage.ReplayAgreement

namespace NightWatch.Triage.RejectedPlans

open Lib.JsText Lib.JsData Triage.Types ReplayPlan ReplayEnvelope ReplayBinding ReplayScreens
open ReplayAgreement (then_eq_ok assertOptional_eq_ok parse_eq_ok)

structure NumberedOccurrence where
  ordinal : JsNumber
  expectedActionId : JsString

structure NumberedPlan where
  planId : JsString
  candidateKind : ReplayCandidateKind
  anomalyFingerprint : JsString
  originalOccurrences : List NumberedOccurrence
  retainedOccurrenceOrdinals : List JsNumber
  phase : ReplayPhase
  targetId : JsString
  contractVersion : JsString
  contractDigest : JsString
  catalogVersion : JsString
  sourceVersion : JsString
  routeClass : JsString
  semanticExpectationId : Option JsString
  sourceEvidenceDigest : Option JsString

/-- `Number.isInteger(x) && x >= 0` has one reason: an ordinal that is not whole fares as a negative
one. -/
def checkedOrdinal : JsNumber → ℤ
  | .finite q => if q.den = 1 then q.num else -1
  | _ => -1

def checkedOccurrence (occurrence : NumberedOccurrence) : ReplayOccurrence :=
  ⟨checkedOrdinal occurrence.ordinal, occurrence.expectedActionId⟩

def NumberedPlan.checked (plan : NumberedPlan) : TriageReplayPlanV2 where
  planId := plan.planId
  candidateKind := plan.candidateKind
  anomalyFingerprint := plan.anomalyFingerprint
  originalOccurrences := plan.originalOccurrences.map checkedOccurrence
  retainedOccurrenceOrdinals := plan.retainedOccurrenceOrdinals.map checkedOrdinal
  phase := plan.phase
  targetId := plan.targetId
  contractVersion := plan.contractVersion
  contractDigest := plan.contractDigest
  catalogVersion := plan.catalogVersion
  sourceVersion := plan.sourceVersion
  routeClass := plan.routeClass
  semanticExpectationId := plan.semanticExpectationId
  sourceEvidenceDigest := plan.sourceEvidenceDigest

/-- `ordinalToActionMap(occurrences).get(ordinal)`; a map finds `NaN` again. -/
def actionOf (originalOccurrences : List NumberedOccurrence) (ordinal : JsNumber) :
    Option JsString :=
  (originalOccurrences.reverse.find? fun occurrence => occurrence.ordinal = ordinal).map
    NumberedOccurrence.expectedActionId

/-- `isBoundedInt(ordinal, 0, MAX_IDENTITY_ORDINAL)`, with the whole number. -/
def boundedOrdinal : JsNumber → Option ℤ
  | .finite q => if q.den = 1 ∧ isWithin q.num 0 maxIdentityOrdinal = true then some q.num else none
  | _ => none

def resolveOrdinal (originalOccurrences : List NumberedOccurrence) (ordinal : ℤ) :
    Option ReplayEnvelopeOccurrenceIdentity :=
  (actionOf originalOccurrences (.finite ordinal)).bind fun id =>
    if !isActionId id || hasSentinel id then none
    else some { ordinal, actionId := id, identityToken := tokenText id ordinal }

def resolvedIdentities (plan : NumberedPlan) : List ReplayEnvelopeOccurrenceIdentity :=
  let valid := plan.retainedOccurrenceOrdinals.filterMap boundedOrdinal
  (valid.dedup.mergeSort.take maxResolvedIdentities).filterMap
    (resolveOrdinal plan.originalOccurrences)

def unresolvedCount (plan : NumberedPlan) : ℤ :=
  plan.retainedOccurrenceOrdinals.length - (resolvedIdentities plan).length

def duplicateAccounting (plan : NumberedPlan) : ReplayEnvelopeDuplicateAccounting :=
  let retainedIds := plan.retainedOccurrenceOrdinals.filterMap (actionOf plan.originalOccurrences)
  { handling := duplicateActionHandling (plan.originalOccurrences.map checkedOccurrence)
    retainedOccurrenceCount := plan.retainedOccurrenceOrdinals.length
    distinctRetainedActionCount := retainedIds.dedup.length
    deduplicatedActionCount := plan.retainedOccurrenceOrdinals.length - retainedIds.dedup.length }

def failureCodes (reason : JsString) : List ReplayEnvelopeReasonCode :=
  .planValidationFailed :: (guardReasons.filter fun guard => guard.text = reason).map
    ReplayEnvelopeReasonCode.guardReason

def validationFailureReplayResultEnvelope (plan : NumberedPlan) (reason : JsString) :
    Except JsString ReplayResultEnvelope := do
  let codes ← sortedCodes (failureCodes reason)
  .ok {
    plan := sanitizedPlanIdentity plan.checked
    validation := { passed := false, reason := some (boundedValidationReason reason) }
    execution := .notExecuted .planValidationFailed
    occurrenceIdentities := resolvedIdentities plan
    unresolvedOccurrenceCount := unresolvedCount plan
    duplicates := duplicateAccounting plan
    executorCallCount := 0
    classification := replayEnvelopeClassificationFromValidationReason reason
    reasonCodes := codes }

def executeReplayPlanV2AsEnvelope (digest : TriageReplayPlanV2 → JsString) {W : Type}
    (executor : V2Executor W) (state : W) (plan : NumberedPlan) :
    Except JsString ReplayResultEnvelope × W :=
  match validateReplayPlanV2 digest plan.checked with
  | .error reason => (validationFailureReplayResultEnvelope plan reason, state)
  | .ok () => executeValidatedReplayPlanV2AsEnvelope executor state plan.checked

section Identities

variable {plan : NumberedPlan}

theorem within_of_boundedOrdinal {n : JsNumber} {z : ℤ} (h : boundedOrdinal n = some z) :
    isWithin z 0 maxIdentityOrdinal = true := by
  cases n with
  | finite q =>
      rw [boundedOrdinal] at h
      split at h
      · next hq =>
          obtain rfl := Option.some.inj h
          exact hq.2
      · contradiction
  | _ => contradiction

/-- What an identity of the envelope keeps. -/
structure Shown (identity : ReplayEnvelopeOccurrenceIdentity) : Prop where
  action : isActionId identity.actionId = true
  clear : hasSentinel identity.actionId = false
  token : identity.identityToken = tokenText identity.actionId identity.ordinal

variable {occurrences : List NumberedOccurrence} {identity : ReplayEnvelopeOccurrenceIdentity}

theorem shown_of_resolveOrdinal {ordinal : ℤ}
    (h : resolveOrdinal occurrences ordinal = some identity) :
    identity.ordinal = ordinal ∧ Shown identity := by
  obtain ⟨id, -, hid⟩ := Option.bind_eq_some_iff.mp h
  split at hid
  · contradiction
  · next hshown =>
      obtain rfl := Option.some.inj hid
      obtain ⟨haction, hclear⟩ : isActionId id = true ∧ hasSentinel id = false := by
        simpa using hshown
      exact ⟨rfl, haction, hclear, rfl⟩

theorem mem_resolvedIdentities (h : identity ∈ resolvedIdentities plan) : Shown identity := by
  obtain ⟨ordinal, -, hordinal⟩ := List.mem_filterMap.mp h
  exact (shown_of_resolveOrdinal hordinal).2

variable (plan) in
theorem length_resolvedIdentities_le : (resolvedIdentities plan).length ≤ maxResolvedIdentities ∧
      (resolvedIdentities plan).length ≤ plan.retainedOccurrenceOrdinals.length := by
  have htake : (resolvedIdentities plan).length ≤ min maxResolvedIdentities
      (plan.retainedOccurrenceOrdinals.filterMap boundedOrdinal).dedup.length := by
    refine (List.length_filterMap_le _ _).trans ?_
    rw [List.length_take, List.length_mergeSort]
  have hvalid : (plan.retainedOccurrenceOrdinals.filterMap boundedOrdinal).dedup.length ≤
      plan.retainedOccurrenceOrdinals.length :=
    (List.dedup_sublist _).length_le.trans (List.length_filterMap_le _ _)
  omega

theorem checkIdentities_resolved {seen ordinals : List ℤ}
    (hrange : ∀ ordinal ∈ ordinals, isWithin ordinal 0 maxIdentityOrdinal = true)
    (hnodup : ordinals.Nodup) (hseen : ∀ ordinal ∈ ordinals, ordinal ∉ seen) :
    checkIdentities seen (ordinals.filterMap (resolveOrdinal occurrences)) = .ok () := by
  induction ordinals generalizing seen with
  | nil => rfl
  | cons ordinal rest ih =>
      obtain ⟨hfresh, hunique⟩ := List.nodup_cons.mp hnodup
      have hrest := fun other hother => hrange other (List.mem_cons_of_mem ordinal hother)
      cases hresolve : resolveOrdinal occurrences ordinal with
      | none =>
          rw [List.filterMap_cons_none hresolve]
          exact ih hrest hunique fun other hother => hseen other (List.mem_cons_of_mem _ hother)
      | some identity =>
          obtain ⟨rfl, hshown⟩ := shown_of_resolveOrdinal hresolve
          rw [List.filterMap_cons_some hresolve]
          simp only [checkIdentities, then_eq_ok, failIf_eq_ok, hshown.action, hshown.token,
            hrange _ List.mem_cons_self, Bool.not_true, ne_eq, not_true_eq_false, decide_false,
            true_and]
          refine ⟨decide_eq_false (hseen _ List.mem_cons_self), ih hrest hunique ?_⟩
          intro other hother hmem
          rcases List.mem_cons.mp hmem with rfl | hmem
          · exact hfresh hother
          · exact hseen other (List.mem_cons_of_mem _ hother) hmem

theorem checkIdentities_resolvedIdentities :
    checkIdentities [] (resolvedIdentities plan) = .ok () := by
  have hsub : ∀ ordinal ∈ ((plan.retainedOccurrenceOrdinals.filterMap
      boundedOrdinal).dedup.mergeSort.take maxResolvedIdentities),
      ordinal ∈ plan.retainedOccurrenceOrdinals.filterMap boundedOrdinal := by
    intro ordinal hmem
    exact List.mem_dedup.mp ((List.mergeSort_perm _ _).mem_iff.mp (List.mem_of_mem_take hmem))
  refine checkIdentities_resolved ?_ ?_ (by simp)
  · intro ordinal hmem
    obtain ⟨n, -, hn⟩ := List.mem_filterMap.mp (hsub ordinal hmem)
    exact within_of_boundedOrdinal hn
  · refine (List.take_sublist _ _).nodup ?_
    exact (List.mergeSort_perm _ _).nodup_iff.mpr (List.nodup_dedup _)

end Identities

section Accounting

variable {plan : NumberedPlan}

/-- Every retained ordinal names an occurrence, and no two of them the same action. -/
structure ResolvesApart (plan : NumberedPlan) : Prop where
  known : ∀ ordinal ∈ plan.retainedOccurrenceOrdinals,
    (actionOf plan.originalOccurrences ordinal).isSome = true
  apart : (plan.retainedOccurrenceOrdinals.map (actionOf plan.originalOccurrences)).Nodup

theorem map_some_filterMap {α β : Type} {f : α → Option β} {l : List α}
    (h : ∀ a ∈ l, (f a).isSome = true) : (l.filterMap f).map some = l.map f := by
  induction l with
  | nil => rfl
  | cons a l ih =>
      obtain ⟨b, hb⟩ := Option.isSome_iff_exists.mp (h a List.mem_cons_self)
      rw [List.filterMap_cons_some hb, List.map_cons, List.map_cons, hb,
        ih fun c hc => h c (List.mem_cons_of_mem a hc)]

variable (plan) in
theorem distinct_le : (plan.retainedOccurrenceOrdinals.filterMap
    (actionOf plan.originalOccurrences)).dedup.length ≤ plan.retainedOccurrenceOrdinals.length :=
  (List.dedup_sublist _).length_le.trans (List.length_filterMap_le _ _)

theorem distinct_eq_iff : (plan.retainedOccurrenceOrdinals.filterMap
    (actionOf plan.originalOccurrences)).dedup.length =
      plan.retainedOccurrenceOrdinals.length ↔ ResolvesApart plan := by
  have hdedup := (List.dedup_sublist (plan.retainedOccurrenceOrdinals.filterMap
    (actionOf plan.originalOccurrences)))
  have hids := List.length_filterMap_le (actionOf plan.originalOccurrences)
    plan.retainedOccurrenceOrdinals
  have hlength := hdedup.length_le
  constructor
  · intro h
    have hknown := List.filterMap_length_eq_length.mp (by omega :
      (plan.retainedOccurrenceOrdinals.filterMap
        (actionOf plan.originalOccurrences)).length = plan.retainedOccurrenceOrdinals.length)
    refine ⟨hknown, ?_⟩
    rw [← map_some_filterMap hknown]
    refine List.Nodup.map (Option.some_injective _) ?_
    rw [← hdedup.eq_of_length (by omega)]
    exact List.nodup_dedup _
  · rintro ⟨hknown, hapart⟩
    rw [← map_some_filterMap hknown] at hapart
    rw [(List.Nodup.of_map _ hapart).dedup]
    exact List.filterMap_length_eq_length.mpr hknown

/-- The accounts of a rejected plan are those that the parser asks for. -/
structure Accountable (plan : NumberedPlan) : Prop where
  length : plan.retainedOccurrenceOrdinals.length ≤ 999999
  actions : hasDuplicateActionIds (plan.originalOccurrences.map checkedOccurrence) = true ∨
    ResolvesApart plan

theorem checkDuplicates_iff :
    checkDuplicates (duplicateAccounting plan) = .ok () ↔ Accountable plan := by
  have hle := distinct_le plan
  have hhandling : (duplicateAccounting plan).handling = .occurrenceDistinguished ↔
      hasDuplicateActionIds (plan.originalOccurrences.map checkedOccurrence) = true := by
    simp [duplicateAccounting, duplicateActionHandling]
  have hlost : (duplicateAccounting plan).deduplicatedActionCount ≤ 0 ↔ ResolvesApart plan := by
    rw [← distinct_eq_iff]
    simp only [duplicateAccounting]
    omega
  simp only [checkDuplicates, then_eq_ok, failIf_eq_ok, Bool.not_eq_false', isWithin,
    decide_eq_true_eq, decide_eq_false_iff_not, not_and_or, not_not, ne_eq, hhandling, not_lt,
    hlost]
  simp only [duplicateAccounting, maxBoundedCount]
  constructor
  · rintro ⟨⟨-, hretained⟩, -, -, -, hactions⟩
    exact ⟨by omega, hactions.symm⟩
  · rintro ⟨hlength, hactions⟩
    exact ⟨by omega, by omega, by omega, trivial, hactions.symm⟩

end Accounting

section Texts

variable (plan : NumberedPlan) (reason : JsString)

theorem echoed_eq {pattern : JsString → Bool} {value text : JsString}
    (h : echoed pattern value = some text) : pattern text = true := by
  rw [echoed] at h
  split at h
  · next hpattern =>
      obtain rfl := Option.some.inj h
      exact hpattern
  · contradiction

theorem boundedValidationReason_shown : isValidationReason (boundedValidationReason reason) = true ∧
      hasSentinel (boundedValidationReason reason) = false := by
  rw [boundedValidationReason]
  split
  · next h => simpa using h
  · decide

theorem target_shown {text : JsString}
    (h : (sanitizedPlanIdentity plan.checked).targetId = some text) :
    isActionId text = true ∧ hasSentinel text = false := by
  have hechoed : echoed (fun id => isActionId id && !hasSentinel id) plan.targetId = some text := h
  simpa using echoed_eq hechoed

theorem planTexts_clear : ∀ s ∈ planTexts (sanitizedPlanIdentity plan.checked),
    hasSentinel s = false := by
  have hversion : hasSentinel planVersion = false := by rfl
  simp only [planTexts, List.forall_mem_append, List.forall_mem_cons]
  refine ⟨⟨⟨⟨⟨hversion, ?_⟩, ?_⟩, ?_⟩, ?_⟩, ?_⟩
  · intro s hs
    exact not_hasSentinel_of_isTagged (by decide) (echoed_eq (Option.mem_toList.mp hs))
  · simpa [sanitizedPlanIdentity] using ReplayAgreement.not_hasSentinel_kindText _
  · simpa [sanitizedPlanIdentity] using ReplayAgreement.not_hasSentinel_phaseText _
  · intro s hs
    exact (target_shown plan (Option.mem_toList.mp hs)).2
  · intro s hs
    exact ReplayAgreement.not_hasSentinel_fingerprint (echoed_eq (Option.mem_toList.mp hs))

theorem Shown.texts_clear {identity : ReplayEnvelopeOccurrenceIdentity} (h : Shown identity) :
    ∀ s ∈ identityTexts identity, hasSentinel s = false := by
  have htoken : hasSentinel identity.identityToken = false := by
    rw [h.token, Bool.eq_false_iff]
    intro hsentinel
    have hid := hasSentinel_of_tokenText hsentinel
    rw [h.clear] at hid
    contradiction
  simp [identityTexts, h.clear, htoken]

end Texts

section Envelope

variable (plan : NumberedPlan) (reason : JsString)

def failureEnvelope : ReplayResultEnvelope where
  plan := sanitizedPlanIdentity plan.checked
  validation := { passed := false, reason := some (boundedValidationReason reason) }
  execution := .notExecuted .planValidationFailed
  occurrenceIdentities := resolvedIdentities plan
  unresolvedOccurrenceCount := unresolvedCount plan
  duplicates := duplicateAccounting plan
  executorCallCount := 0
  classification := replayEnvelopeClassificationFromValidationReason reason
  reasonCodes := (failureCodes reason).mergeSort codeLe

theorem failureCodes_cases : failureCodes reason = [.planValidationFailed] ∨
    ∃ guard, guard.text = reason ∧
      failureCodes reason = [.planValidationFailed, .guardReason guard] := by
  by_cases h : ∃ guard ∈ guardReasons, guard.text = reason
  · obtain ⟨guard, -, rfl⟩ := h
    refine .inr ⟨guard, rfl, ?_⟩
    cases guard <;> decide
  · refine .inl ?_
    have hnone : guardReasons.filter (fun guard => guard.text = reason) = [] := by
      simpa [List.filter_eq_nil_iff] using h
    rw [failureCodes, hnone, List.map_nil]

theorem guard_mem_failureCodes {guard : GuardReason} (h : guard.text = reason) :
    ReplayEnvelopeReasonCode.guardReason guard ∈ failureCodes reason := by
  subst h
  refine List.mem_cons_of_mem _ (List.mem_map_of_mem ?_)
  refine List.mem_filter.mpr ⟨?_, by simp⟩
  cases guard <;> decide

theorem sortedCodes_failureCodes :
    sortedCodes (failureCodes reason) = .ok ((failureCodes reason).mergeSort codeLe) := by
  have hlength : (failureCodes reason).length ≤ maxReasonCodes := by
    rcases failureCodes_cases reason with h | ⟨guard, -, h⟩
    · simp [h, maxReasonCodes]
    · simp [h, maxReasonCodes]
  simp [sortedCodes, failIf, not_lt.mpr hlength, bind, Except.bind]

theorem validationFailure_eq : validationFailureReplayResultEnvelope plan reason =
    .ok (failureEnvelope plan reason) := by
  rw [validationFailureReplayResultEnvelope, sortedCodes_failureCodes]
  rfl

theorem checkCodes_failureCodes : checkCodes ((failureCodes reason).mergeSort codeLe) = .ok () := by
  have hperm := List.mergeSort_perm (failureCodes reason) codeLe
  have hsorted : ((failureCodes reason).mergeSort codeLe).Pairwise fun a b =>
      codeLe a b = true := by
    refine List.pairwise_mergeSort ?_ ?_ _
    · intro a b c hab hbc
      simp only [codeLe, decide_eq_true_eq] at hab hbc ⊢
      exact le_trans (α := List Nat) hab hbc
    · intro a b
      have htotal : textLe a.text b.text ∨ textLe b.text a.text := le_total (α := List Nat) _ _
      simpa [codeLe] using htotal
  simp only [checkCodes, then_eq_ok, failIf_eq_ok, decide_eq_false_iff_not, not_lt, not_not,
    hperm.length_eq, hperm.nodup_iff]
  refine ⟨?_, ?_, hsorted.isChain⟩
  · rcases failureCodes_cases reason with h | ⟨guard, -, h⟩
    · simp [h, maxReasonCodes]
    · simp [h, maxReasonCodes]
  · rcases failureCodes_cases reason with h | ⟨guard, -, h⟩
    · simp [h]
    · simp [h]

theorem envelopeTexts_clear :
    (envelopeTexts (failureEnvelope plan reason)).any hasSentinel = false := by
  have hversion : hasSentinel envelopeVersion = false := by rfl
  have hexecution : hasSentinel ReplayEnvelopeNotExecutedReason.planValidationFailed.text =
      false := by rfl
  have hall : ∀ s ∈ envelopeTexts (failureEnvelope plan reason), hasSentinel s = false := by
    simp only [envelopeTexts, failureEnvelope, executionTexts, List.forall_mem_append,
      List.forall_mem_cons]
    refine ⟨⟨⟨⟨⟨⟨hversion, planTexts_clear plan⟩, ?_⟩, hexecution, ?_⟩, ?_⟩,
      ReplayAgreement.not_hasSentinel_handlingText _,
      ReplayAgreement.not_hasSentinel_classification _, ?_⟩, ?_⟩
    · simpa using (boundedValidationReason_shown reason).2
    · simp
    · intro s hs
      obtain ⟨identity, hmem, hs⟩ := List.mem_flatMap.mp hs
      exact (mem_resolvedIdentities hmem).texts_clear s hs
    · simp
    · intro s hs
      obtain ⟨code, -, rfl⟩ := List.mem_map.mp hs
      exact ReplayAgreement.not_hasSentinel_code code
  rw [List.any_eq_false]
  intro s hs
  simpa using hall s hs

theorem checkPlanIdentity_sanitized :
    checkPlanIdentity (sanitizedPlanIdentity plan.checked) = .ok () := by
  have hechoed : ∀ (pattern : JsString → Bool) (value : JsString),
      (echoed pattern value).all pattern = true := by
    intro pattern value
    cases h : echoed pattern value with
    | none => rfl
    | some text => exact echoed_eq h
  simp only [checkPlanIdentity, then_eq_ok, assertOptional_eq_ok]
  refine ⟨hechoed _ _, ?_, hechoed _ _⟩
  cases h : (sanitizedPlanIdentity plan.checked).targetId with
  | none => rfl
  | some text => exact (target_shown plan h).1

theorem checkCoherence_failureEnvelope : checkCoherence (failureEnvelope plan reason) = .ok () := by
  have hmem : ∀ code, code ∈ (failureEnvelope plan reason).reasonCodes ↔
      code ∈ failureCodes reason := fun code => (List.mergeSort_perm _ _).mem_iff
  have hclass : (failureEnvelope plan reason).classification = .invalid ∨
      (failureEnvelope plan reason).classification = .preconditionDivergence ∧
        .guardReason .preconditionDivergence ∈ failureCodes reason := by
    simp only [failureEnvelope, replayEnvelopeClassificationFromValidationReason]
    split
    · next h => exact .inr ⟨rfl, guard_mem_failureCodes reason h.symm⟩
    · exact .inl rfl
  have hcases : checkCoherence (failureEnvelope plan reason) = .ok () ↔
      (failureEnvelope plan reason).executorCallCount = 0 ∧
      ¬ ((failureEnvelope plan reason).classification ≠ .invalid ∧
        (failureEnvelope plan reason).classification ≠ .preconditionDivergence) ∧
      .planValidationFailed ∈ failureCodes reason ∧
      ¬ ((failureEnvelope plan reason).classification = .preconditionDivergence ∧
        .guardReason .preconditionDivergence ∉ failureCodes reason) := by
    simp only [checkCoherence, show (failureEnvelope plan reason).validation.passed = false from rfl,
      show (failureEnvelope plan reason).execution = .notExecuted .planValidationFailed from rfl,
      then_eq_ok, failIf_eq_ok, decide_eq_false_iff_not, hmem, not_not, ne_eq, not_true_eq_false,
      not_false_eq_true, true_and]
  rw [hcases]
  refine ⟨rfl, ?_, ?_, ?_⟩
  · rcases hclass with h | ⟨h, -⟩
    · simp [h]
    · simp [h]
  · simp [failureCodes]
  · rintro ⟨hdivergence, hmissing⟩
    rcases hclass with h | ⟨-, h⟩
    · rw [h] at hdivergence
      contradiction
    · exact hmissing h

theorem parse_failureEnvelope_iff :
    parseReplayResultEnvelope (failureEnvelope plan reason) = .ok (failureEnvelope plan reason) ↔
      Accountable plan := by
  obtain ⟨hresolved, hretained⟩ := length_resolvedIdentities_le plan
  rw [parse_eq_ok, ← checkDuplicates_iff]
  simp only [validateReplayResultEnvelope, then_eq_ok, failIf_eq_ok]
  constructor
  · rintro ⟨-, -, -, -, -, -, -, -, hduplicates, -⟩
    exact hduplicates
  · intro hduplicates
    have hlength := (checkDuplicates_iff.mp hduplicates).length
    refine ⟨envelopeTexts_clear plan reason, checkPlanIdentity_sanitized plan, ?_, rfl, ?_,
      checkIdentities_resolvedIdentities, ?_, ?_, hduplicates, ?_, rfl,
      checkCodes_failureCodes reason, checkCoherence_failureEnvelope plan reason⟩
    · simp [checkValidation, then_eq_ok, failIf_eq_ok, failureEnvelope,
        (boundedValidationReason_shown reason).1]
    · exact decide_eq_false (not_lt.mpr hresolved)
    · have hcount : 0 ≤ unresolvedCount plan ∧ unresolvedCount plan ≤ maxBoundedCount := by
        simp only [unresolvedCount, maxBoundedCount]
        omega
      simp [failureEnvelope, isWithin, hcount]
    · simp [failureEnvelope]
    · simp [failureEnvelope, unresolvedCount, duplicateAccounting]

end Envelope

section Path

variable (digest : TriageReplayPlanV2 → JsString) {W : Type} (executor : V2Executor W) (state : W)
  (plan : NumberedPlan)

/-- An envelope that certifies nothing. -/
structure FailClosed (envelope : ReplayResultEnvelope) : Prop where
  passed : envelope.validation.passed = false
  execution : envelope.execution = .notExecuted .planValidationFailed
  calls : envelope.executorCallCount = 0
  classification : envelope.classification = .invalid ∨
    envelope.classification = .preconditionDivergence

/-- The executor is not called, and an envelope comes back that the parser takes. -/
structure RejectedCleanly : Prop where
  uncalled : (executeReplayPlanV2AsEnvelope digest executor state plan).2 = state
  accepted : ∃ envelope,
    (executeReplayPlanV2AsEnvelope digest executor state plan).1 = .ok envelope ∧
      FailClosed envelope ∧ parseReplayResultEnvelope envelope = .ok envelope

theorem failClosed_failureEnvelope (reason : JsString) :
    FailClosed (failureEnvelope plan reason) := by
  refine ⟨rfl, rfl, rfl, ?_⟩
  simp only [failureEnvelope, replayEnvelopeClassificationFromValidationReason]
  split
  · exact .inr rfl
  · exact .inl rfl

variable {digest executor state plan}

/-- A rejected plan comes back as an envelope that the parser takes exactly where its accounts
hold: an ordinal that is retained twice or names no occurrence counts as deduplicated. -/
theorem rejected_cleanly_iff {reason : JsString}
    (hrejected : validateReplayPlanV2 digest plan.checked = .error reason) :
    RejectedCleanly digest executor state plan ↔ Accountable plan := by
  have hrun : executeReplayPlanV2AsEnvelope digest executor state plan =
      (.ok (failureEnvelope plan reason), state) := by
    simp only [executeReplayPlanV2AsEnvelope, hrejected, validationFailure_eq]
  rw [← parse_failureEnvelope_iff plan reason]
  constructor
  · rintro ⟨-, envelope, henvelope, -, hparse⟩
    rw [hrun] at henvelope
    obtain rfl := Except.ok.inj henvelope
    exact hparse
  · intro hparse
    exact ⟨by rw [hrun], _, by rw [hrun], failClosed_failureEnvelope plan reason, hparse⟩

private def retainingPlan (retained : List JsNumber) : NumberedPlan where
  planId := "rp2:sha256:".toList ++ List.replicate 24 '0'
  candidateKind := .api
  anomalyFingerprint := "fp:sha256:".toList ++ List.replicate 24 'a'
  originalOccurrences := [⟨.ofNat 0, "ripple.payer-exchange.read".toList⟩]
  retainedOccurrenceOrdinals := retained
  phase := .freshExactReplay
  targetId := "payer-exchange".toList
  contractVersion := "v1".toList
  contractDigest := List.replicate 64 'b'
  catalogVersion := "v1".toList
  sourceVersion := "v1".toList
  routeClass := "/ripple/payer".toList
  semanticExpectationId := none
  sourceEvidenceDigest := none

private def zeroHash : TriageReplayPlanV2 → JsString := fun _ => List.replicate 24 '0'

private def countingExecutor : V2Executor ℕ := fun calls _ _ => (none, calls + 1)

theorem rejected_cleanly_iff_empty :
    RejectedCleanly zeroHash countingExecutor 0 (retainingPlan []) ↔
      Accountable (retainingPlan []) :=
  rejected_cleanly_iff (by decide +kernel : validateReplayPlanV2 zeroHash
    (retainingPlan []).checked = .error "REPLAY_PLAN_V2_NOT_SUBSEQUENCE".toList)

/-- An ordinal retained twice: the envelope is returned, and the parser refuses it. -/
theorem repeated_ordinal_refused :
    validateReplayPlanV2 zeroHash (retainingPlan [.ofNat 0, .ofNat 0]).checked =
        .error "REPLAY_PLAN_V2_NOT_SUBSEQUENCE".toList ∧
      ¬ RejectedCleanly zeroHash countingExecutor 0 (retainingPlan [.ofNat 0, .ofNat 0]) := by
  refine ⟨by decide +kernel, ?_⟩
  rintro ⟨-, envelope, henvelope, -, hparse⟩
  have hrefused : (executeReplayPlanV2AsEnvelope zeroHash countingExecutor 0
      (retainingPlan [.ofNat 0, .ofNat 0])).1.bind parseReplayResultEnvelope =
      .error ("REPLAY_ENVELOPE_INVALID:".toList ++
        "REPLAY_ENVELOPE_DUPLICATES_HANDLING_COHERENCE_INVALID".toList) := by decide +kernel
  rw [henvelope] at hrefused
  simp [Except.bind, hparse] at hrefused

end Path

end NightWatch.Triage.RejectedPlans
