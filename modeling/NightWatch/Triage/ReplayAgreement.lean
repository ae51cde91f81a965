import NightWatch.Lib.Guard
import NightWatch.Triage.ReplayBinding
import NightWatch.Triage.ReplayScreens

/-!
The agreement of the plan validation, the resolution of identities and the envelope parser.
The validation bounds neither the ordinals nor the target id as the envelope does, and the
constructor does not look at the parser's verdict on the route of an outcome.
-/

namespace NightWatch.Triage.ReplayAgreement

open Lib.JsText Lib.Guard Triage.Types ReplayPlan ReplayEnvelope ReplayBinding ReplayScreens
open Minimizer (normalizeExecutorOutcome)

theorem then_eq_ok {ε α : Type} {x : Except ε Unit} {y : Except ε α} {a : α} :
    (x >>= fun _ => y) = .ok a ↔ x = .ok () ∧ y = .ok a := by
  rw [bind_eq_ok]
  constructor
  · rintro ⟨⟨⟩, hx, hy⟩
    exact ⟨hx, hy⟩
  · rintro ⟨hx, hy⟩
    exact ⟨(), hx, hy⟩

/-- What the later modules need of a validated plan. -/
structure Admitted (plan : TriageReplayPlanV2) : Prop where
  planId : isPlanId plan.planId = true
  fingerprint : isFingerprint plan.anomalyFingerprint = true
  targetId : isActionId plan.targetId = true
  occurrences : ∀ occurrence ∈ plan.originalOccurrences, 0 ≤ occurrence.ordinal ∧
    isActionId occurrence.expectedActionId = true ∧
    hasSentinel occurrence.expectedActionId = false
  nodup : (plan.originalOccurrences.map ReplayOccurrence.ordinal).Nodup
  retained : plan.retainedOccurrenceOrdinals.Sublist
    (plan.originalOccurrences.map ReplayOccurrence.ordinal)
  length : plan.retainedOccurrenceOrdinals.length ≤ 64

variable {pattern : JsString → Bool} {retained : List ℤ}

theorem pattern_of_validateStringField {name : String} {value : JsString} {maxLen : Nat}
    (h : validateStringField name value pattern maxLen = .ok ()) : pattern value = true := by
  simp only [validateStringField, then_eq_ok, failIf_eq_ok] at h
  simpa using h.2

theorem checkOccurrences_eq_ok {seen : List ℤ} {occurrences : List ReplayOccurrence}
    (h : checkOccurrences seen occurrences = .ok ()) :
    (∀ occurrence ∈ occurrences, 0 ≤ occurrence.ordinal ∧
      isActionId occurrence.expectedActionId = true ∧
      hasSentinel occurrence.expectedActionId = false) ∧
    (occurrences.map ReplayOccurrence.ordinal).Nodup ∧
    ∀ ordinal ∈ seen, ordinal ∉ occurrences.map ReplayOccurrence.ordinal := by
  induction occurrences generalizing seen with
  | nil => simp
  | cons occurrence rest ih =>
      simp only [checkOccurrences, then_eq_ok, failIf_eq_ok, decide_eq_false_iff_not] at h
      obtain ⟨hnonneg, hfresh, hid, hsentinel, hrest⟩ := h
      obtain ⟨hall, hnodup, hseen⟩ := ih hrest
      refine ⟨?_, ?_, ?_⟩
      · intro other hother
        rcases List.mem_cons.mp hother with rfl | hother
        · exact ⟨by omega, pattern_of_validateStringField hid, hsentinel⟩
        · exact hall other hother
      · exact List.nodup_cons.mpr ⟨hseen _ (List.mem_cons_self), hnodup⟩
      · intro ordinal hordinal hmem
        rcases List.mem_cons.mp hmem with rfl | hmem
        · exact hfresh hordinal
        · exact hseen ordinal (List.mem_cons_of_mem _ hordinal) hmem

theorem sublist_of_meetsAll {ordinals : List ℤ} (h : meetsAll ordinals retained = true) :
    retained.Sublist ordinals := by
  induction ordinals generalizing retained with
  | nil =>
      cases retained with
      | nil => exact List.Sublist.refl _
      | cons _ _ => simp [meetsAll] at h
  | cons ordinal ordinals ih =>
      cases retained with
      | nil => exact List.nil_sublist _
      | cons first rest =>
          simp only [meetsAll] at h
          split at h
          · next heq =>
              rw [heq]
              exact (ih h).cons_cons first
          · exact (ih h).cons ordinal

theorem sublist_of_orderPreserving {original : List ReplayOccurrence}
    (h : isOrderPreservingOrdinalSubsequence original retained = true) :
    retained.Sublist (original.map ReplayOccurrence.ordinal) := by
  simp only [isOrderPreservingOrdinalSubsequence] at h
  split at h
  · simp at h
  · split at h
    · next hnil =>
        rw [List.length_eq_zero_iff.mp hnil]
        exact List.nil_sublist _
    · exact sublist_of_meetsAll h

theorem admitted_of_validate {digest : TriageReplayPlanV2 → JsString}
    {plan : TriageReplayPlanV2} (h : validateReplayPlanV2 digest plan = .ok ()) :
    Admitted plan := by
  simp only [validateReplayPlanV2, then_eq_ok] at h
  obtain ⟨h, -, -⟩ := h
  simp only [validateTriageReplayPlanV2, then_eq_ok, failIf_eq_ok] at h
  obtain ⟨hfingerprint, -, htarget, -, -, -, -, -, -, hoccurrences, hlength, -, hsubsequence,
    -, -, -, -, -, hplan, -⟩ := h
  obtain ⟨hall, hnodup, -⟩ := checkOccurrences_eq_ok hoccurrences
  exact {
    planId := by simpa using hplan
    fingerprint := pattern_of_validateStringField hfingerprint
    targetId := pattern_of_validateStringField htarget
    occurrences := hall
    nodup := hnodup
    retained := sublist_of_orderPreserving (by simpa using hsubsequence)
    length := by simpa using hlength }

section Resolution

variable {plan : TriageReplayPlanV2}

theorem Admitted.exists_action (h : Admitted plan) {ordinal : ℤ}
    (hmem : ordinal ∈ plan.retainedOccurrenceOrdinals) :
    ∃ id, actionOf plan.originalOccurrences ordinal = some id ∧ 0 ≤ ordinal ∧
      isActionId id = true ∧ hasSentinel id = false := by
  obtain ⟨occurrence, hoccurrence, rfl⟩ := List.mem_map.mp (h.retained.subset hmem)
  cases hfind : plan.originalOccurrences.reverse.find? fun other =>
      other.ordinal = occurrence.ordinal with
  | none =>
      have := List.find?_eq_none.mp hfind occurrence (List.mem_reverse.mpr hoccurrence)
      simp at this
  | some found =>
      have hfound := List.mem_reverse.mp (List.mem_of_find?_eq_some hfind)
      have hordinal : found.ordinal = occurrence.ordinal := by simpa using List.find?_some hfind
      obtain ⟨hnonneg, hid, hsentinel⟩ := h.occurrences found hfound
      exact ⟨found.expectedActionId, by rw [actionOf, hfind, Option.map_some],
        hordinal ▸ hnonneg, hid, hsentinel⟩

def identityOf (plan : TriageReplayPlanV2) (ordinal : ℤ) : ReplayEnvelopeOccurrenceIdentity :=
  let id := (actionOf plan.originalOccurrences ordinal).getD []
  { ordinal, actionId := id, identityToken := tokenText id ordinal }

theorem Admitted.resolveOrdinal_eq (h : Admitted plan) {ordinal : ℤ}
    (hmem : ordinal ∈ plan.retainedOccurrenceOrdinals) :
    resolveOrdinal plan.originalOccurrences ordinal = some (identityOf plan ordinal) := by
  obtain ⟨id, haction, -, hid, hsentinel⟩ := h.exists_action hmem
  simp [resolveOrdinal, identityOf, haction, hid, hsentinel]

theorem Admitted.nodup_retained (h : Admitted plan) : plan.retainedOccurrenceOrdinals.Nodup :=
  h.retained.nodup h.nodup

variable {ordinal : ℤ} {ordinals : List ℤ}

theorem mem_mergeSort_retained : ordinal ∈ plan.retainedOccurrenceOrdinals.mergeSort ↔
      ordinal ∈ plan.retainedOccurrenceOrdinals :=
  (List.mergeSort_perm _ _).mem_iff

theorem Admitted.resolvedIdentities_eq (h : Admitted plan)
    (hrange : ∀ ordinal ∈ plan.retainedOccurrenceOrdinals, ordinal ≤ maxIdentityOrdinal) :
    resolvedIdentities plan.originalOccurrences plan.retainedOccurrenceOrdinals =
      plan.retainedOccurrenceOrdinals.mergeSort.map (identityOf plan) := by
  have hfilter : plan.retainedOccurrenceOrdinals.filter
      (fun ordinal => isWithin ordinal 0 maxIdentityOrdinal) =
      plan.retainedOccurrenceOrdinals := by
    refine List.filter_eq_self.mpr fun ordinal hmem => ?_
    obtain ⟨-, -, hnonneg, -⟩ := h.exists_action hmem
    simp [isWithin, hnonneg, hrange ordinal hmem]
  have htake : plan.retainedOccurrenceOrdinals.mergeSort.take maxResolvedIdentities =
      plan.retainedOccurrenceOrdinals.mergeSort := by
    refine List.take_of_length_le ?_
    rw [List.length_mergeSort]
    exact h.length
  simp only [resolvedIdentities, hfilter, h.nodup_retained.dedup, htake]
  rw [List.filterMap_congr (g := some ∘ identityOf plan) fun ordinal hmem =>
    h.resolveOrdinal_eq (mem_mergeSort_retained.mp hmem), List.filterMap_eq_map]

theorem occurrenceIdentityToken_eq_ok {id token : JsString}
    (hid : isActionId id = true) (hsentinel : hasSentinel id = false) (hnonneg : 0 ≤ ordinal) :
    occurrenceIdentityToken id ordinal = .ok token ↔
      ordinal ≤ maxIdentityOrdinal ∧ token = tokenText id ordinal := by
  simp only [occurrenceIdentityToken, hid, hsentinel, then_eq_ok, failIf_eq_ok, Bool.not_true,
    Bool.or_self, true_and, decide_eq_false_iff_not, Except.ok.injEq, maxIdentityOrdinal]
  constructor
  · rintro ⟨hrange, rfl⟩
    exact ⟨by omega, rfl⟩
  · rintro ⟨hrange, rfl⟩
    exact ⟨by omega, rfl⟩

theorem resolveRetained_eq_ok
    (hids : ∀ ordinal ∈ ordinals, ∃ id, actionOf plan.originalOccurrences ordinal = some id ∧
      0 ≤ ordinal ∧ isActionId id = true ∧ hasSentinel id = false) :
    (∃ identities, resolveRetained plan.originalOccurrences ordinals = .ok identities) ↔
      ∀ ordinal ∈ ordinals, ordinal ≤ maxIdentityOrdinal := by
  induction ordinals with
  | nil => simp [resolveRetained]
  | cons ordinal rest ih =>
      obtain ⟨id, haction, hnonneg, hid, hsentinel⟩ := hids ordinal (by simp)
      have ih := ih fun other hother => hids other (by simp [hother])
      simp only [resolveRetained, haction, bind_eq_ok,
        occurrenceIdentityToken_eq_ok hid hsentinel hnonneg, List.forall_mem_cons]
      constructor
      · rintro ⟨identities, token, ⟨hrange, -⟩, others, hothers, -⟩
        exact ⟨hrange, ih.mp ⟨others, hothers⟩⟩
      · rintro ⟨hrange, hrest⟩
        obtain ⟨others, hothers⟩ := ih.mpr hrest
        exact ⟨_, tokenText id ordinal, ⟨hrange, rfl⟩, others, hothers, rfl⟩

theorem Admitted.resolves_iff (h : Admitted plan) :
    (∃ identities, resolveRetainedOccurrenceIdentities plan = .ok identities) ↔
      ∀ ordinal ∈ plan.retainedOccurrenceOrdinals, ordinal ≤ maxIdentityOrdinal := by
  rw [resolveRetainedOccurrenceIdentities, resolveRetained_eq_ok
    fun ordinal hmem => h.exists_action (mem_mergeSort_retained.mp hmem)]
  simp only [mem_mergeSort_retained]

theorem tokenText_inj {a b : JsString} {m n : ℤ} (hm : 0 ≤ m) (hn : 0 ≤ n)
    (ha : isActionId a = true) (hb : isActionId b = true) (h : tokenText a m = tokenText b n) :
    m = n := by
  have plain : ∀ {id : JsString}, isActionId id = true → '#' ∉ id := by
    intro id hid hmem
    have hchars := ((allOf_iff.mp (Bool.and_eq_true_iff.mp hid).1).2 '#' hmem)
    revert hchars
    decide
  have hsplit : splitFirst '#' (tokenText a m) = splitFirst '#' (tokenText b n) := by rw [h]
  simp only [tokenText, List.append_assoc] at hsplit
  rw [show "#occ:".toList = '#' :: "occ:".toList from rfl, List.cons_append, List.cons_append,
    splitFirst_append (plain ha), splitFirst_append (plain hb)] at hsplit
  simp only [Option.some.injEq, Prod.mk.injEq, List.append_cancel_left_eq] at hsplit
  have hdecimal := decimal_injective hsplit.2
  omega

theorem Admitted.nodup_tokens (h : Admitted plan) :
    ((plan.retainedOccurrenceOrdinals.mergeSort.map (identityOf plan)).map
      ReplayEnvelopeOccurrenceIdentity.identityToken).Nodup := by
  rw [List.map_map]
  refine List.Nodup.map_on ?_ ((List.mergeSort_perm _ _).nodup_iff.mpr h.nodup_retained)
  intro m hm n hn heq
  obtain ⟨a, haction, hm, ha, -⟩ := h.exists_action (mem_mergeSort_retained.mp hm)
  obtain ⟨b, hbction, hn, hb, -⟩ := h.exists_action (mem_mergeSort_retained.mp hn)
  simp only [Function.comp_apply, identityOf, haction, hbction, Option.getD_some] at heq
  exact tokenText_inj hm hn ha hb heq

theorem checkIdentities_eq_ok {seen : List ℤ}
    (hids : ∀ ordinal ∈ ordinals, ∃ id, actionOf plan.originalOccurrences ordinal = some id ∧
      0 ≤ ordinal ∧ isActionId id = true ∧ hasSentinel id = false)
    (hrange : ∀ ordinal ∈ ordinals, ordinal ≤ maxIdentityOrdinal) (hnodup : ordinals.Nodup)
    (hseen : ∀ ordinal ∈ ordinals, ordinal ∉ seen) :
    checkIdentities seen (ordinals.map (identityOf plan)) = .ok () := by
  induction ordinals generalizing seen with
  | nil => rfl
  | cons ordinal rest ih =>
      obtain ⟨id, haction, hnonneg, hid, -⟩ := hids ordinal (by simp)
      obtain ⟨hfresh, hnodup⟩ := List.nodup_cons.mp hnodup
      have hwithin : isWithin ordinal 0 maxIdentityOrdinal = true := by
        simp [isWithin, hnonneg, hrange ordinal (by simp)]
      have hidentity : identityOf plan ordinal = ⟨ordinal, id, tokenText id ordinal⟩ := by
        simp [identityOf, haction]
      simp only [List.map_cons, hidentity, checkIdentities, then_eq_ok, failIf_eq_ok, hwithin,
        hid, Bool.not_true, ne_eq, not_true_eq_false, decide_false, true_and]
      refine ⟨decide_eq_false (hseen ordinal (by simp)), ?_⟩
      refine ih (fun other hother => hids other (by simp [hother]))
        (fun other hother => hrange other (by simp [hother])) hnodup ?_
      intro other hother hmem
      rcases List.mem_cons.mp hmem with rfl | hmem
      · exact hfresh hother
      · exact hseen other (by simp [hother]) hmem

end Resolution

section Duplicates

variable {plan : TriageReplayPlanV2} {occurrences : List ReplayOccurrence}

theorem mem_actionIds_of_actionOf {ordinal : ℤ}
    {id : JsString} (h : actionOf occurrences ordinal = some id) :
    ∃ occurrence ∈ occurrences, occurrence.ordinal = ordinal ∧
      occurrence.expectedActionId = id := by
  obtain ⟨occurrence, hfind, rfl⟩ := Option.map_eq_some_iff.mp h
  exact ⟨occurrence, List.mem_reverse.mp (List.mem_of_find?_eq_some hfind),
    by simpa using List.find?_some hfind, rfl⟩

theorem ordinal_unique (h : hasDuplicateActionIds occurrences = false) {a b : ReplayOccurrence}
    (ha : a ∈ occurrences) (hb : b ∈ occurrences) (hid : a.expectedActionId = b.expectedActionId) :
    a.ordinal = b.ordinal := by
  by_contra hne
  have hsub : [a.ordinal, b.ordinal].Subperm ((occurrences.filter fun occurrence =>
      occurrence.expectedActionId = a.expectedActionId).map ReplayOccurrence.ordinal) := by
    refine List.subperm_of_subset (by simpa using hne) ?_
    intro ordinal hordinal
    rcases List.mem_pair.mp hordinal with rfl | rfl
    · exact List.mem_map.mpr ⟨a, List.mem_filter.mpr ⟨ha, by simp⟩, rfl⟩
    · exact List.mem_map.mpr ⟨b, List.mem_filter.mpr ⟨hb, by simp [hid]⟩, rfl⟩
  have hlength := hsub.length_le
  simp only [hasDuplicateActionIds, duplicateActionOccurrences, List.length_map,
    decide_eq_false_iff_not, Nat.not_lt, Nat.le_zero, List.length_eq_zero_iff,
    List.filter_eq_nil_iff, List.mem_map, List.mem_dedup] at h
  refine h _ ⟨a.expectedActionId, ⟨a, ha, rfl⟩, rfl⟩ ?_
  simpa [Nat.lt_iff_add_one_le] using hlength

theorem Admitted.retainedIds_eq (h : Admitted plan) :
    plan.retainedOccurrenceOrdinals.filterMap (actionOf plan.originalOccurrences) =
      plan.retainedOccurrenceOrdinals.map fun ordinal =>
        (actionOf plan.originalOccurrences ordinal).getD [] := by
  rw [← List.filterMap_eq_map]
  refine List.filterMap_congr fun ordinal hmem => ?_
  obtain ⟨id, haction, -⟩ := h.exists_action hmem
  simp [haction]

theorem Admitted.checkDuplicates_eq_ok (h : Admitted plan) :
    checkDuplicates (duplicateAccounting plan.originalOccurrences
      plan.retainedOccurrenceOrdinals) = .ok () := by
  set ids := plan.retainedOccurrenceOrdinals.filterMap (actionOf plan.originalOccurrences)
    with hids
  have hcount : ids.length = plan.retainedOccurrenceOrdinals.length := by
    rw [hids, h.retainedIds_eq, List.length_map]
  have hdedup : ids.dedup.length ≤ ids.length := (List.dedup_sublist ids).length_le
  have hlength := h.length
  have hhandling : ids.dedup.length < ids.length →
      duplicateActionHandling plan.originalOccurrences = .occurrenceDistinguished := by
    intro hlt
    rw [duplicateActionHandling, if_pos]
    by_contra hnone
    have hnone : hasDuplicateActionIds plan.originalOccurrences = false := by
      simpa using hnone
    have hnodup : ids.Nodup := by
      rw [hids, h.retainedIds_eq]
      refine List.Nodup.map_on ?_ h.nodup_retained
      intro m hm n hn heq
      obtain ⟨a, haction, -⟩ := h.exists_action hm
      obtain ⟨b, hbction, -⟩ := h.exists_action hn
      simp only [haction, hbction, Option.getD_some] at heq
      obtain ⟨first, hfirst, rfl, rfl⟩ := mem_actionIds_of_actionOf haction
      obtain ⟨second, hsecond, rfl, rfl⟩ := mem_actionIds_of_actionOf hbction
      exact ordinal_unique hnone hfirst hsecond heq
    rw [hnodup.dedup] at hlt
    omega
  simp only [checkDuplicates, duplicateAccounting, then_eq_ok, failIf_eq_ok, ← hids, isWithin,
    maxBoundedCount, Bool.not_eq_false', decide_eq_true_eq, decide_eq_false_iff_not]
  refine ⟨by omega, by omega, by omega, by omega, ?_⟩
  rintro ⟨hpositive, hother⟩
  exact hother (hhandling (by omega))

end Duplicates

/-- Counters in range and fingerprints of their form. -/
structure WellFormedOutcome (outcome : CandidateReplayOutcome) : Prop where
  safety : validateSafetyVectorShape outcome.safety = true
  anomaly : outcome.anomalyFingerprint.all isFingerprint = true
  semantic : outcome.semanticFindingFingerprint.all isFingerprint = true
  contract : outcome.semanticContractIdentity.all isContractIdentity = true

def observedOutcome (plan : TriageReplayPlanV2) (returned : Option CandidateReplayOutcome) :
    CandidateReplayOutcome :=
  match returned with
  | some result => normalizeExecutorResult result plan
  | none => invalidResult .preconditionDivergence

theorem wellFormed_invalidResult (reason : GuardReason) :
    WellFormedOutcome (invalidResult reason) := by
  refine ⟨?_, rfl, rfl, rfl⟩
  have hzero : validateSafetyVectorShape zeroSafety = true := by rfl
  exact hzero

theorem normalizeExecutorOutcome_fields (result : CandidateReplayOutcome) (fingerprint : JsString) :
    let normalized := normalizeExecutorOutcome result fingerprint
    normalized.safety = result.safety ∧
      (normalized.anomalyFingerprint = none ∨
        normalized.anomalyFingerprint = result.anomalyFingerprint) ∧
      normalized.semanticFindingFingerprint = result.semanticFindingFingerprint ∧
      normalized.semanticContractIdentity = result.semanticContractIdentity ∧
      normalized.routeClass = result.routeClass := by
  simp only [normalizeExecutorOutcome]
  split
  · exact ⟨rfl, .inl rfl, rfl, rfl, rfl⟩
  · exact ⟨rfl, .inr rfl, rfl, rfl, rfl⟩

/-- What is asked of the outcomes that an executor returns. -/
structure WellFormedResult (result : CandidateReplayOutcome) : Prop where
  safety : validateSafetyVectorShape result.safety = true
  anomaly : result.anomalyFingerprint.all isFingerprint = true
  semantic : result.semanticFindingFingerprint.all isFingerprint = true

def shownRoute (result : CandidateReplayOutcome) : Option JsString :=
  if result.semanticContractIdentity.all isContractIdentity then result.routeClass else none

theorem wellFormed_normalizeExecutorResult {plan : TriageReplayPlanV2}
    {result : CandidateReplayOutcome} (h : WellFormedResult result) :
    WellFormedOutcome (normalizeExecutorResult result plan) ∧
      (normalizeExecutorResult result plan).routeClass = shownRoute result := by
  obtain ⟨hsafety, hanomaly, hsemantic, hcontract, hroute⟩ :=
    normalizeExecutorOutcome_fields result plan.anomalyFingerprint
  simp only [normalizeExecutorResult, shownRoute, hsemantic, hcontract, h.semantic, Bool.true_and]
  split
  · next hidentity =>
      refine ⟨⟨hsafety ▸ h.safety, ?_, hsemantic ▸ h.semantic, hcontract ▸ hidentity⟩, hroute⟩
      rcases hanomaly with hnone | hsame
      · rw [hnone]
        rfl
      · rw [hsame]
        exact h.anomaly
  · exact ⟨wellFormed_invalidResult _, rfl⟩

theorem wellFormed_observedOutcome {plan : TriageReplayPlanV2}
    {returned : Option CandidateReplayOutcome}
    (h : ∀ result, returned = some result → WellFormedResult result) :
    WellFormedOutcome (observedOutcome plan returned) ∧
      (observedOutcome plan returned).routeClass = returned.bind shownRoute := by
  cases returned with
  | none => exact ⟨wellFormed_invalidResult _, rfl⟩
  | some result => exact wellFormed_normalizeExecutorResult (h result rfl)

theorem assertOptional_eq_ok {value : Option JsString} {reason : String} :
    assertOptional value pattern reason = .ok () ↔ value.all pattern = true := by
  cases value <;> simp [assertOptional, failIf_eq_ok]

def canonicalOutcome (outcome : CandidateReplayOutcome) : CandidateReplayOutcome :=
  { outcome with executorFailure := none }

theorem sanitizedExecutorOutcome_eq_ok {outcome canonical : CandidateReplayOutcome}
    (h : WellFormedOutcome outcome) : sanitizedExecutorOutcome outcome = .ok canonical ↔
      outcome.routeClass.all isRouteClass = true ∧ canonicalOutcome outcome = canonical := by
  simp only [sanitizedExecutorOutcome, canonicalOutcome, then_eq_ok, failIf_eq_ok,
    assertOptional_eq_ok, h.safety, h.anomaly, h.semantic, h.contract, Bool.not_true, true_and,
    Except.ok.injEq]

theorem outcomeCodes_cases (outcome : CandidateReplayOutcome) :
    outcomeCodes outcome (replayEnvelopeClassificationFromOutcome outcome) = [] ∧
        replayEnvelopeClassificationFromOutcome outcome ≠ .preconditionDivergence ∨
      ∃ reason, outcomeCodes outcome (replayEnvelopeClassificationFromOutcome outcome) =
          [.guardReason reason] ∧
        (replayEnvelopeClassificationFromOutcome outcome = .preconditionDivergence →
          reason = .preconditionDivergence) := by
  cases hstatus : outcome.status with
  | failure => exact .inl (by simp [replayEnvelopeClassificationFromOutcome, hstatus, outcomeCodes])
  | pass => exact .inl (by simp [replayEnvelopeClassificationFromOutcome, hstatus, outcomeCodes])
  | invalid =>
      cases hreason : outcome.invalidReason with
      | none =>
          exact .inl (by
            simp [replayEnvelopeClassificationFromOutcome, hstatus, hreason, outcomeCodes])
      | some reason =>
          refine .inr ⟨reason, ?_⟩
          by_cases hdivergence : reason = .preconditionDivergence
          · simp [replayEnvelopeClassificationFromOutcome, hstatus, hreason, outcomeCodes,
              hdivergence]
          · simp [replayEnvelopeClassificationFromOutcome, hstatus, hreason, outcomeCodes,
              hdivergence]

theorem sortedCodes_outcome (outcome : CandidateReplayOutcome) :
    sortedCodes (outcomeCodes outcome (replayEnvelopeClassificationFromOutcome outcome)) =
      .ok (outcomeCodes outcome (replayEnvelopeClassificationFromOutcome outcome)) := by
  rcases outcomeCodes_cases outcome with ⟨hcodes, -⟩ | ⟨reason, hcodes, -⟩
  · rw [hcodes]
    simp [sortedCodes, failIf, maxReasonCodes, bind, Except.bind]
  · rw [hcodes]
    simp [sortedCodes, failIf, maxReasonCodes, bind, Except.bind]

section Envelopes

variable {plan : TriageReplayPlanV2} {outcome : CandidateReplayOutcome}

def shownIdentity (plan : TriageReplayPlanV2) : ReplayEnvelopePlanIdentity where
  planId := some plan.planId
  candidateKind := some plan.candidateKind
  phase := some plan.phase
  targetId := some plan.targetId
  anomalyFingerprint := some plan.anomalyFingerprint

def envelopeOf (plan : TriageReplayPlanV2) (outcome : CandidateReplayOutcome) :
    ReplayResultEnvelope :=
  let classification := replayEnvelopeClassificationFromOutcome (canonicalOutcome outcome)
  { plan := shownIdentity plan
    validation := { passed := true, reason := none }
    execution := .executed (canonicalOutcome outcome)
    occurrenceIdentities :=
      resolvedIdentities plan.originalOccurrences plan.retainedOccurrenceOrdinals
    unresolvedOccurrenceCount :=
      unresolvedCount plan.originalOccurrences plan.retainedOccurrenceOrdinals
    duplicates := duplicateAccounting plan.originalOccurrences plan.retainedOccurrenceOrdinals
    executorCallCount := 1
    classification
    reasonCodes := outcomeCodes (canonicalOutcome outcome) classification }

theorem Admitted.fullPlanIdentity_eq_ok (h : Admitted plan)
    {identity : ReplayEnvelopePlanIdentity} :
    fullPlanIdentity plan = .ok identity ↔ hasSentinel plan.targetId = false ∧
      identity = shownIdentity plan := by
  cases htarget : hasSentinel plan.targetId with
  | true =>
      simp [fullPlanIdentity, sanitizedPlanIdentity, echoed, h.planId, h.fingerprint,
        h.targetId, htarget, then_eq_ok, failIf_eq_ok]
  | false =>
      simp [fullPlanIdentity, sanitizedPlanIdentity, echoed, h.planId, h.fingerprint,
        h.targetId, htarget, then_eq_ok, failIf_eq_ok, shownIdentity]
      exact eq_comm

theorem Admitted.executed_eq_ok (h : Admitted plan) (hwell : WellFormedOutcome outcome)
    {envelope : ReplayResultEnvelope} : executedReplayResultEnvelope plan outcome 1 = .ok envelope ↔
      outcome.routeClass.all isRouteClass = true ∧ hasSentinel plan.targetId = false ∧
        envelope = envelopeOf plan outcome := by
  have hcalls : isWithin 1 0 maxExecutorCalls = true := by decide
  simp only [executedReplayResultEnvelope, hcalls, Bool.not_true, then_eq_ok, failIf_eq_ok,
    true_and]
  simp only [bind_eq_ok, sanitizedExecutorOutcome_eq_ok hwell]
  constructor
  · rintro ⟨canonical, ⟨hroute, rfl⟩, identity, hidentity, codes, hcodes, henvelope⟩
    obtain ⟨htarget, rfl⟩ := h.fullPlanIdentity_eq_ok.mp hidentity
    rw [sortedCodes_outcome] at hcodes
    obtain rfl := Except.ok.inj hcodes
    exact ⟨hroute, htarget, (Except.ok.inj henvelope).symm⟩
  · rintro ⟨hroute, htarget, rfl⟩
    exact ⟨_, ⟨hroute, rfl⟩, _, h.fullPlanIdentity_eq_ok.mpr ⟨htarget, rfl⟩, _,
      sortedCodes_outcome _, rfl⟩

theorem not_hasSentinel_kindText (kind : ReplayCandidateKind) :
    hasSentinel (kindText kind) = false := by
  cases kind <;> rfl

theorem not_hasSentinel_phaseText (phase : ReplayPhase) :
    hasSentinel (phaseText phase) = false := by
  cases phase <;> rfl

theorem not_hasSentinel_statusText (status : ReplayStatus) :
    hasSentinel (statusText status) = false := by
  cases status <;> rfl

theorem not_hasSentinel_handlingText (handling : DuplicateActionHandling) :
    hasSentinel (handlingText handling) = false := by
  cases handling <;> rfl

theorem not_hasSentinel_classification (classification : ReplayEnvelopeClassification) :
    hasSentinel classification.text = false := by
  cases classification <;> rfl

theorem not_hasSentinel_guardReason (reason : GuardReason) : hasSentinel reason.text = false := by
  cases reason <;> rfl

theorem not_hasSentinel_code (code : ReplayEnvelopeReasonCode) : hasSentinel code.text = false := by
  cases code with
  | guardReason reason => exact not_hasSentinel_guardReason reason
  | planValidationFailed => rfl
  | validatedNotExecuted => rfl

theorem not_hasSentinel_fingerprint {s : JsString} (h : isFingerprint s = true) :
    hasSentinel s = false :=
  not_hasSentinel_of_isTagged (by decide) h

theorem not_hasSentinel_optional {pattern : JsString → Bool}
    (hpattern : ∀ {s}, pattern s = true → hasSentinel s = false) {value : Option JsString}
    (h : value.all pattern = true) : ∀ s ∈ value.toList, hasSentinel s = false := by
  cases value with
  | none => simp
  | some s => simpa using hpattern (by simpa using h)

theorem not_hasSentinel_identityTexts (h : Admitted plan) {ordinal : ℤ}
    (hmem : ordinal ∈ plan.retainedOccurrenceOrdinals) :
    ∀ s ∈ identityTexts (identityOf plan ordinal), hasSentinel s = false := by
  obtain ⟨id, haction, -, -, hsentinel⟩ := h.exists_action hmem
  have htoken : hasSentinel (tokenText id ordinal) = false := by
    cases htoken : hasSentinel (tokenText id ordinal) with
    | false => rfl
    | true => exact absurd (hasSentinel_of_tokenText htoken) (by simp [hsentinel])
  simp [identityTexts, identityOf, haction, hsentinel, htoken]

theorem Admitted.planTexts_clear (h : Admitted plan) (htarget : hasSentinel plan.targetId = false) :
    ∀ s ∈ planTexts (shownIdentity plan), hasSentinel s = false := by
  have hversion : hasSentinel planVersion = false := by rfl
  have hplanId : hasSentinel plan.planId = false := not_hasSentinel_of_isTagged (by decide) h.planId
  simp [planTexts, shownIdentity, hversion, hplanId, htarget, not_hasSentinel_kindText,
    not_hasSentinel_phaseText, not_hasSentinel_fingerprint h.fingerprint]

theorem WellFormedOutcome.outcomeTexts_clear (h : WellFormedOutcome outcome)
    (hroute : ∀ route, outcome.routeClass = some route → hasSentinel route = false) :
    ∀ s ∈ outcomeTexts (canonicalOutcome outcome), hasSentinel s = false := by
  have hcontract : ∀ {s}, isContractIdentity s = true → hasSentinel s = false :=
    fun hs => not_hasSentinel_of_isTagged (by decide) hs
  have hanomaly := not_hasSentinel_optional not_hasSentinel_fingerprint h.anomaly
  have hsemantic := not_hasSentinel_optional not_hasSentinel_fingerprint h.semantic
  have hidentity := not_hasSentinel_optional hcontract h.contract
  have hreason : ∀ s ∈ (outcome.invalidReason.map GuardReason.text).toList,
      hasSentinel s = false := by
    cases outcome.invalidReason with
    | none => simp
    | some reason => simpa using not_hasSentinel_guardReason reason
  have hroutes : ∀ s ∈ outcome.routeClass.toList, hasSentinel s = false :=
    fun s hs => hroute s (Option.mem_toList.mp hs)
  simp only [outcomeTexts, canonicalOutcome, List.forall_mem_append, List.forall_mem_cons]
  exact ⟨⟨⟨⟨⟨not_hasSentinel_statusText _, hanomaly⟩, hsemantic⟩, hidentity⟩, hreason⟩, hroutes⟩

theorem Admitted.identityTexts_clear (h : Admitted plan) :
    ∀ s ∈ (plan.retainedOccurrenceOrdinals.mergeSort.map (identityOf plan)).flatMap identityTexts,
      hasSentinel s = false := by
  intro s hs
  obtain ⟨identity, hmem, hs⟩ := List.mem_flatMap.mp hs
  obtain ⟨ordinal, hordinal, rfl⟩ := List.mem_map.mp hmem
  exact not_hasSentinel_identityTexts h (mem_mergeSort_retained.mp hordinal) s hs

theorem Admitted.screened_iff (h : Admitted plan) (hwell : WellFormedOutcome outcome)
    (hrange : ∀ ordinal ∈ plan.retainedOccurrenceOrdinals, ordinal ≤ maxIdentityOrdinal)
    (htarget : hasSentinel plan.targetId = false) :
    (envelopeTexts (envelopeOf plan outcome)).any hasSentinel = false ↔
      ∀ route, outcome.routeClass = some route → hasSentinel route = false := by
  have hversion : hasSentinel envelopeVersion = false := by rfl
  have hcodes : ∀ codes : List ReplayEnvelopeReasonCode,
      ∀ s ∈ codes.map ReplayEnvelopeReasonCode.text, hasSentinel s = false := by
    intro codes s hs
    obtain ⟨code, -, rfl⟩ := List.mem_map.mp hs
    exact not_hasSentinel_code code
  rw [List.any_eq_false]
  constructor
  · intro hall route hroute
    have hmem : route ∈ envelopeTexts (envelopeOf plan outcome) := by
      simp [envelopeTexts, envelopeOf, executionTexts, outcomeTexts, canonicalOutcome, hroute]
    simpa using hall route hmem
  · intro hroute s hs
    have hall : ∀ s ∈ envelopeTexts (envelopeOf plan outcome), hasSentinel s = false := by
      simp only [envelopeTexts, envelopeOf, executionTexts, h.resolvedIdentities_eq hrange,
        List.forall_mem_append, List.forall_mem_cons]
      refine ⟨⟨⟨⟨⟨⟨hversion, h.planTexts_clear htarget⟩, ?_⟩, hwell.outcomeTexts_clear hroute⟩,
        h.identityTexts_clear⟩, not_hasSentinel_handlingText _, not_hasSentinel_classification _,
        ?_⟩, hcodes _⟩
      · simp
      · simp
    simpa using hall s hs

theorem checkCodes_outcome (outcome : CandidateReplayOutcome) :
    checkCodes (outcomeCodes outcome (replayEnvelopeClassificationFromOutcome outcome)) =
      .ok () := by
  rcases outcomeCodes_cases outcome with ⟨hcodes, -⟩ | ⟨reason, hcodes, -⟩
  · rw [hcodes]
    decide
  · rw [hcodes]
    simp [checkCodes, failIf, maxReasonCodes, bind, Except.bind]

theorem checkCoherence_envelopeOf : checkCoherence (envelopeOf plan outcome) = .ok () := by
  have hdivergence : replayEnvelopeClassificationFromOutcome (canonicalOutcome outcome) =
      .preconditionDivergence → .guardReason .preconditionDivergence ∈
        outcomeCodes (canonicalOutcome outcome)
          (replayEnvelopeClassificationFromOutcome (canonicalOutcome outcome)) := by
    intro hclassification
    rcases outcomeCodes_cases (canonicalOutcome outcome) with
      ⟨-, hother⟩ | ⟨reason, hcodes, hreason⟩
    · exact absurd hclassification hother
    · rw [hcodes, hreason hclassification]
      exact List.mem_singleton_self _
  have hstatus : ∀ outcome : CandidateReplayOutcome,
      replayEnvelopeClassificationFromOutcome outcome ≠ .notExecuted ∧
      (replayEnvelopeClassificationFromOutcome outcome = .pass → outcome.status = .pass) ∧
      (replayEnvelopeClassificationFromOutcome outcome = .failure → outcome.status = .failure) ∧
      (replayEnvelopeClassificationFromOutcome outcome = .invalid ∨
        replayEnvelopeClassificationFromOutcome outcome = .preconditionDivergence →
          outcome.status = .invalid) := by
    intro outcome
    cases hstatus : outcome.status with
    | failure => simp [replayEnvelopeClassificationFromOutcome, hstatus]
    | pass => simp [replayEnvelopeClassificationFromOutcome, hstatus]
    | invalid =>
        simp only [replayEnvelopeClassificationFromOutcome, hstatus]
        split
        · simp
        · simp
  obtain ⟨hexecuted, hpass, hfailure, hinvalid⟩ := hstatus (canonicalOutcome outcome)
  simp only [checkCoherence, envelopeOf, then_eq_ok, failIf_eq_ok]
  refine ⟨decide_eq_false hexecuted, rfl, ?_, ?_, ?_, ?_⟩
  · exact decide_eq_false fun h => h.2 (hpass h.1)
  · exact decide_eq_false fun h => h.2 (hfailure h.1)
  · exact decide_eq_false fun h => h.2 (hinvalid h.1)
  · exact decide_eq_false fun h => h.2 (hdivergence h.1)

theorem Admitted.unresolvedCount_eq_zero (h : Admitted plan)
    (hrange : ∀ ordinal ∈ plan.retainedOccurrenceOrdinals, ordinal ≤ maxIdentityOrdinal) :
    unresolvedCount plan.originalOccurrences plan.retainedOccurrenceOrdinals = 0 := by
  simp [unresolvedCount, h.resolvedIdentities_eq hrange]

theorem Admitted.validate_iff (h : Admitted plan) (hwell : WellFormedOutcome outcome)
    (hrange : ∀ ordinal ∈ plan.retainedOccurrenceOrdinals, ordinal ≤ maxIdentityOrdinal)
    (htarget : hasSentinel plan.targetId = false)
    (hroute : outcome.routeClass.all isRouteClass = true) :
    validateReplayResultEnvelope (envelopeOf plan outcome) = .ok () ↔
      ∀ route, outcome.routeClass = some route → hasSentinel route = false := by
  have hplan : checkPlanIdentity (shownIdentity plan) = .ok () := by
    simp [checkPlanIdentity, shownIdentity, then_eq_ok, assertOptional_eq_ok, h.planId,
      h.targetId, h.fingerprint]
  have hexecution : checkExecution (.executed (canonicalOutcome outcome)) = .ok () := by
    simp [checkExecution, canonicalOutcome, then_eq_ok, failIf_eq_ok, assertOptional_eq_ok,
      hwell.safety, hwell.anomaly, hwell.semantic, hwell.contract, hroute]
  have hidentities : checkIdentities [] (plan.retainedOccurrenceOrdinals.mergeSort.map
      (identityOf plan)) = .ok () := by
    refine checkIdentities_eq_ok
      (fun ordinal hmem => h.exists_action (mem_mergeSort_retained.mp hmem))
      (fun ordinal hmem => hrange ordinal (mem_mergeSort_retained.mp hmem))
      ((List.mergeSort_perm _ _).nodup_iff.mpr h.nodup_retained) (by simp)
  have hlength := h.length
  rw [← h.screened_iff hwell hrange htarget]
  simp only [validateReplayResultEnvelope, then_eq_ok, failIf_eq_ok]
  constructor
  · exact fun hvalid => hvalid.1
  · intro hscreened
    refine ⟨hscreened, hplan, rfl, hexecution, ?_, ?_, ?_, ?_, h.checkDuplicates_eq_ok, ?_,
      rfl, checkCodes_outcome _, checkCoherence_envelopeOf⟩
    · simpa [envelopeOf, h.resolvedIdentities_eq hrange, maxResolvedIdentities] using hlength
    · simpa [envelopeOf, h.resolvedIdentities_eq hrange] using hidentities
    · simp [envelopeOf, h.unresolvedCount_eq_zero hrange, isWithin, maxBoundedCount]
    · simp [envelopeOf, h.unresolvedCount_eq_zero hrange]
    · simp [envelopeOf, h.unresolvedCount_eq_zero hrange, h.resolvedIdentities_eq hrange,
        duplicateAccounting]

end Envelopes

section Agreement

variable (digest : TriageReplayPlanV2 → JsString) {W : Type} (executor : V2Executor W) (state : W)
  (plan : TriageReplayPlanV2)

/-- The three modules agree on a plan and on what the executor makes of it. -/
structure Agrees : Prop where
  once : (executeReplayPlanV2AsEnvelope digest executor state plan).2 =
    (executor state plan (buildRetainedActionsV2 plan)).2
  accepted : ∃ envelope,
    (executeReplayPlanV2AsEnvelope digest executor state plan).1 = .ok envelope ∧
      parseReplayResultEnvelope envelope = .ok envelope ∧
      envelope.unresolvedOccurrenceCount = 0 ∧
      envelope.occurrenceIdentities.map ReplayEnvelopeOccurrenceIdentity.ordinal =
        plan.retainedOccurrenceOrdinals.mergeSort ∧
      (envelope.occurrenceIdentities.map
        ReplayEnvelopeOccurrenceIdentity.identityToken).Nodup
  resolves : ∃ identities, resolveRetainedOccurrenceIdentities plan = .ok identities

/-- The bounds of the envelope that the validation of a plan leaves unchecked. An outcome whose
contract identity is malformed is replaced, so its route is not asked for. -/
structure InEnvelopeBounds : Prop where
  ordinals : ∀ ordinal ∈ plan.retainedOccurrenceOrdinals, ordinal ≤ maxIdentityOrdinal
  target : hasSentinel plan.targetId = false
  routes : ∀ result, (executor state plan (buildRetainedActionsV2 plan)).1 = some result →
    result.semanticContractIdentity.all isContractIdentity = true →
    ∀ route, result.routeClass = some route → isRouteClass route = true ∧ hasSentinel route = false

variable {digest executor state plan}

theorem executeReplayPlanV2AsEnvelope_eq (hvalid : validateReplayPlanV2 digest plan = .ok ()) :
    executeReplayPlanV2AsEnvelope digest executor state plan =
      (executedReplayResultEnvelope plan (observedOutcome plan
          (executor state plan (buildRetainedActionsV2 plan)).1) 1,
        (executor state plan (buildRetainedActionsV2 plan)).2) := by
  simp only [executeReplayPlanV2AsEnvelope, hvalid, executeValidatedReplayPlanV2AsEnvelope,
    executeValidatedReplayPlanV2, observedOutcome]
  cases (executor state plan (buildRetainedActionsV2 plan)).1 with
  | none => rfl
  | some result => rfl

theorem parse_eq_ok {envelope : ReplayResultEnvelope} :
    parseReplayResultEnvelope envelope = .ok envelope ↔
      validateReplayResultEnvelope envelope = .ok () := by
  simp only [parseReplayResultEnvelope]
  cases validateReplayResultEnvelope envelope with
  | error reason => simp
  | ok _ => simp

theorem forall_bind_shownRoute {returned : Option CandidateReplayOutcome} {p : JsString → Prop} :
    (∀ route, returned.bind shownRoute = some route → p route) ↔ ∀ result, returned = some result →
        result.semanticContractIdentity.all isContractIdentity = true →
        ∀ route, result.routeClass = some route → p route := by
  cases returned with
  | none => simp
  | some result =>
      by_cases hcontract : result.semanticContractIdentity.all isContractIdentity = true
      · simp [shownRoute, hcontract]
      · simp [shownRoute, hcontract]

theorem agrees_iff_inEnvelopeBounds (hvalid : validateReplayPlanV2 digest plan = .ok ())
    (hresult : ∀ result, (executor state plan (buildRetainedActionsV2 plan)).1 = some result →
      WellFormedResult result) :
    Agrees digest executor state plan ↔ InEnvelopeBounds executor state plan := by
  have h := admitted_of_validate hvalid
  have hobserved : WellFormedOutcome (observedOutcome plan _) ∧ _ :=
    wellFormed_observedOutcome hresult
  obtain ⟨hwell, hroute⟩ := hobserved
  have hforms : ∀ route : Option JsString, route.all isRouteClass = true ↔
      ∀ r, route = some r → isRouteClass r = true := by
    intro route
    cases route with
    | none => simp
    | some r => simp
  have hrun : executeReplayPlanV2AsEnvelope digest executor state plan = _ :=
    executeReplayPlanV2AsEnvelope_eq hvalid
  constructor
  · rintro ⟨-, ⟨envelope, henvelope, hparse, -⟩, hresolves⟩
    rw [hrun] at henvelope
    obtain ⟨hform, htarget, rfl⟩ := (h.executed_eq_ok hwell).mp henvelope
    have hordinals := h.resolves_iff.mp hresolves
    have hclear := (h.validate_iff hwell hordinals htarget hform).mp (parse_eq_ok.mp hparse)
    rw [hforms] at hform
    rw [hroute] at hform hclear
    exact ⟨hordinals, htarget,
      forall_bind_shownRoute.mp fun route hmem => ⟨hform route hmem, hclear route hmem⟩⟩
  · rintro ⟨hordinals, htarget, hroutes⟩
    have hroutes := forall_bind_shownRoute.mpr hroutes
    rw [← hroute] at hroutes
    have hform := (hforms _).mpr fun route hmem => (hroutes route hmem).1
    have hvalidated := (h.validate_iff hwell hordinals htarget hform).mpr
      fun route hmem => (hroutes route hmem).2
    refine ⟨by rw [hrun], ⟨_, ?_, parse_eq_ok.mpr hvalidated, h.unresolvedCount_eq_zero hordinals,
      ?_, ?_⟩, h.resolves_iff.mpr hordinals⟩
    · rw [hrun]
      exact (h.executed_eq_ok hwell).mpr ⟨hform, htarget, rfl⟩
    · simp only [envelopeOf, h.resolvedIdentities_eq hordinals, List.map_map]
      exact List.map_id _
    · simp only [envelopeOf, h.resolvedIdentities_eq hordinals]
      exact h.nodup_tokens

private def readPlan (ordinal : ℤ) : TriageReplayPlanV2 where
  planId := "rp2:sha256:".toList ++ List.replicate 24 '0'
  candidateKind := .api
  anomalyFingerprint := "fp:sha256:".toList ++ List.replicate 24 'a'
  originalOccurrences := [⟨ordinal, "ripple.payer-exchange.read".toList⟩]
  retainedOccurrenceOrdinals := [ordinal]
  phase := .freshExactReplay
  targetId := "payer-exchange".toList
  contractVersion := "v1".toList
  contractDigest := List.replicate 64 'b'
  catalogVersion := "v1".toList
  sourceVersion := "v1".toList
  routeClass := "/ripple/payer".toList
  semanticExpectationId := none
  sourceEvidenceDigest := none

private def zeroDigest : TriageReplayPlanV2 → JsString := fun _ => List.replicate 24 '0'

private def passingExecutor : V2Executor ℕ := fun calls _ _ =>
  (some { invalidResult .preconditionDivergence with status := .pass, invalidReason := none },
    calls + 1)

private theorem wellFormed_passing {calls : ℕ} {plan : TriageReplayPlanV2}
    {actions : List MinimizationAction} (result : CandidateReplayOutcome)
    (h : (passingExecutor calls plan actions).1 = some result) : WellFormedResult result := by
  obtain rfl := Option.some.inj h
  have hinvalid := wellFormed_invalidResult .preconditionDivergence
  exact ⟨hinvalid.safety, rfl, rfl⟩

theorem agrees_readPlan : Agrees zeroDigest passingExecutor 0 (readPlan 0) ↔
      InEnvelopeBounds passingExecutor 0 (readPlan 0) :=
  agrees_iff_inEnvelopeBounds (by decide +kernel) fun result => wellFormed_passing result

/-- An ordinal beyond the bound of the envelope is validated, and the identities then fail. -/
theorem not_agrees_large_ordinal : validateReplayPlanV2 zeroDigest (readPlan 1000000) = .ok () ∧
      (∀ result, (passingExecutor 0 (readPlan 1000000)
        (buildRetainedActionsV2 (readPlan 1000000))).1 = some result → WellFormedResult result) ∧
      ¬ Agrees zeroDigest passingExecutor 0 (readPlan 1000000) := by
  refine ⟨by decide +kernel, fun result => wellFormed_passing result, ?_⟩
  rintro ⟨-, -, identities, hidentities⟩
  have hthrows : resolveRetainedOccurrenceIdentities (readPlan 1000000) =
      .error "OCCURRENCE_IDENTITY_TOKEN_ORDINAL_INVALID".toList := by decide +kernel
  rw [hthrows] at hidentities
  contradiction

end Agreement

end NightWatch.Triage.ReplayAgreement
