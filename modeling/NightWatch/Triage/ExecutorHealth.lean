import NightWatch.Triage.MinimizerRuns

/-!
The health of the executor. An unhealthy outcome tells nothing about the anomaly; the one
kind that is judged all the same is a failure with another fingerprint, and a run without
that kind rests on healthy outcomes only.
-/

namespace NightWatch.Triage.ExecutorHealth

open Lib.JsText Triage.Types Triage.Minimizer Triage.CandidateLedger Triage.MinimizerRuns

/-- The executor failed, the replay was invalid, or it was unsafe. -/
def Unhealthy (outcome : CandidateReplayOutcome) : Prop :=
  outcome.executorFailure ≠ none ∨ outcome.status = .invalid ∨ allZeroSafety outcome.safety = false

/-- The outcome counts for or against the anomaly. -/
def Tells (outcome : CandidateReplayOutcome) (targetFingerprint : JsString) : Prop :=
  (outcomeReason (normalizeExecutorOutcome outcome targetFingerprint)
      targetFingerprint).disposition = .reproduces ∨
    (outcomeReason (normalizeExecutorOutcome outcome targetFingerprint)
      targetFingerprint).disposition = .doesNotReproduce

/-- A safe replay on which the executor failed and which carries another fingerprint. -/
def Masked (outcome : CandidateReplayOutcome) (targetFingerprint : JsString) : Prop :=
  outcome.executorFailure ≠ none ∧ allZeroSafety outcome.safety = true ∧ outcome.status = .failure ∧
    ∃ fingerprint, outcome.anomalyFingerprint = some fingerprint ∧ fingerprint ≠ targetFingerprint

section Outcomes

variable {outcome : CandidateReplayOutcome} {targetFingerprint : JsString}

theorem tells_outcomeReason_iff :
    ((outcomeReason outcome targetFingerprint).disposition = .reproduces ∨
      (outcomeReason outcome targetFingerprint).disposition = .doesNotReproduce) ↔
    ¬ Unhealthy outcome := by
  unfold outcomeReason Unhealthy
  cases hfailure : outcome.executorFailure with
  | some failure => simp
  | none =>
      dsimp only
      split
      · rename_i hinvalid
        simp [hinvalid]
      · rename_i hinvalid
        split
        · rename_i hcounted
          simp only [Bool.not_eq_true'] at hcounted
          simp [hcounted]
        · rename_i hsafe
          simp only [Bool.not_eq_true', Bool.not_eq_false] at hsafe
          split
          · simp [hinvalid, hsafe]
          · split
            · simp [hinvalid, hsafe]
            · simp [hinvalid, hsafe]

theorem rewritten_iff :
    (outcome.status = .failure && outcome.anomalyFingerprint.any (· ≠ targetFingerprint)) = true ↔
      outcome.status = .failure ∧ ∃ fingerprint,
        outcome.anomalyFingerprint = some fingerprint ∧ fingerprint ≠ targetFingerprint := by
  rw [Bool.and_eq_true, decide_eq_true_eq, Option.any_eq_true]
  simp only [decide_eq_true_eq]

theorem unhealthy_tells_iff :
    (Unhealthy outcome → ¬ Tells outcome targetFingerprint) ↔ ¬ Masked outcome targetFingerprint := by
  unfold Tells
  rw [tells_outcomeReason_iff, not_not]
  unfold normalizeExecutorOutcome
  split
  · rename_i hrewritten
    obtain ⟨hstatus, hfingerprint⟩ := rewritten_iff.mp hrewritten
    have hpass : Unhealthy
        { status := .pass
          anomalyFingerprint := none
          semanticFindingFingerprint := outcome.semanticFindingFingerprint
          semanticContractIdentity := outcome.semanticContractIdentity
          safety := outcome.safety
          invalidReason := none
          executorFailure := none
          routeClass := outcome.routeClass } ↔ allZeroSafety outcome.safety = false := by
      simp [Unhealthy]
    rw [hpass]
    constructor
    · rintro h ⟨hfailed, hsafe, -⟩
      rw [h (.inl hfailed)] at hsafe
      contradiction
    · rintro h (hfailed | hinvalid | hcounted)
      · by_contra hsafe
        exact h ⟨hfailed, by simpa using hsafe, hstatus, hfingerprint⟩
      · rw [hstatus] at hinvalid
        contradiction
      · exact hcounted
  · rename_i hkept
    constructor
    · rintro - ⟨-, -, hstatus, hfingerprint⟩
      exact hkept (rewritten_iff.mpr ⟨hstatus, hfingerprint⟩)
    · intro _ h
      exact h

end Outcomes

section Runs

variable {W : Type} {options : MinimizationOptions W} {state : MinimizerState W}

/-- No reply of the callback is a masked failure. -/
def Unmasked (options : MinimizationOptions W) (state : MinimizerState W) : Prop :=
  ∀ invocation ∈ state.invocations, ∀ outcome, invocation.returned = some outcome →
    ¬ Masked outcome options.anomalyFingerprint

/-- The callback returned a healthy outcome for the candidate. -/
def Sound (state : MinimizerState W) (candidate : List ActionOccurrence) : Prop :=
  ∃ invocation ∈ state.invocations, invocation.sequence = candidate ∧
    ∃ outcome, invocation.returned = some outcome ∧ ¬ Unhealthy outcome

theorem sound_of_exercised (hunmasked : Unmasked options state)
    {candidate : List ActionOccurrence} {disposition : EvaluationDisposition}
    (hexercised : Exercised options state candidate disposition)
    (htells : disposition = .reproduces ∨ disposition = .doesNotReproduce) :
    Sound state candidate := by
  obtain ⟨invocation, hmem, hsequence, hdisposition⟩ := hexercised
  have hjudged : Tells (invocation.returned.getD (invalidOutcome none (some .executorThrow)))
      options.anomalyFingerprint := by
    unfold Tells
    rw [← hdisposition] at htells
    exact htells
  refine ⟨invocation, hmem, hsequence, ?_⟩
  cases hreturned : invocation.returned with
  | none =>
      rw [hreturned] at hjudged
      have hinvalid : ¬ Masked (invalidOutcome none (some .executorThrow))
          options.anomalyFingerprint := by
        rintro ⟨-, -, hstatus, -⟩
        contradiction
      exact absurd hjudged (unhealthy_tells_iff.mpr hinvalid (.inr (.inl rfl)))
  | some outcome =>
      rw [hreturned] at hjudged
      refine ⟨outcome, rfl, ?_⟩
      intro hunhealthy
      exact unhealthy_tells_iff.mpr (hunmasked invocation hmem outcome hreturned) hunhealthy hjudged

/-- What a claim of minimality rests on: the survivor and each of its single deletions were
replayed with a healthy outcome. -/
def RestsOnHealthy (result : MinimizationResult) (state : MinimizerState W) : Prop :=
  ∃ survivor, result.minimalReproducingSequence = actionIds survivor ∧
    result.minimalReproducingOccurrenceOrdinals = some (occurrenceOrdinals survivor) ∧
    Sound state survivor ∧
    (2 ≤ survivor.length → ∀ i < survivor.length, Sound state (survivor.eraseIdx i))

theorem restsOnHealthy_of_concluded {audit : Audit} (h : AuditKept options audit state)
    (hstopped : Stopped audit) (hunmasked : Unmasked options state) (hproven : Proven audit) :
    RestsOnHealthy (concludeAudit options audit state) state := by
  refine ⟨audit.current, rfl, rfl, ?_, ?_⟩
  · have hevidence := evidence_of_judged h.ledger h.survives.sublist h.survives.reproduces
    exact sound_of_exercised hunmasked (hevidence.exercised (.inl rfl)) (.inl rfl)
  · intro hlength i hi
    have hevidence := evidence_of_judged h.ledger
      ((List.eraseIdx_sublist ..).trans h.survives.sublist)
      (deletions_judged h hstopped hproven hlength i hi)
    exact sound_of_exercised hunmasked (hevidence.exercised (.inr rfl)) (.inr rfl)

theorem restsOnHealthy_of_run {fuel : Nat} {world : W} {result : MinimizationResult}
    (hrun : minimizeFailure options fuel world = some (.ok result, state))
    (hunmasked : Unmasked options state) (hclaimed : result.minimalityGuarantee = .oneMinimal ∨
      result.reductionEvidenceClass = .minimalityProven) : RestsOnHealthy result state := by
  have hends := ends_minimizeFailure hrun
  cases hends with
  | invalidOriginal =>
      rcases hclaimed with hclaimed | hclaimed
      · contradiction
      · contradiction
  | @unreproduced disposition _ hbudget hopening hdisposition =>
      rcases hclaimed with hclaimed | hclaimed
      · simp only [unreproduced, resultBase] at hclaimed
        split_ifs at hclaimed
      · contradiction
  | @concluded audit _ hbudget hids h hstopped =>
      refine restsOnHealthy_of_concluded h hstopped hunmasked ?_
      rcases hclaimed with hclaimed | hclaimed
      · exact guarantee_iff.mp hclaimed
      · exact ((evidenceClass_iff h hstopped).mp hclaimed).1

/-- An unhealthy outcome is never judged, unless it is a masked failure; and a run without
masked failures claims minimality on healthy outcomes only. -/
theorem unhealthy_outcomes_prove_nothing_iff (options : MinimizationOptions W) :
    (∀ outcome targetFingerprint, (Unhealthy outcome → ¬ Tells outcome targetFingerprint) ↔
        ¬ Masked outcome targetFingerprint) ∧ (∀ fuel world result state,
      minimizeFailure options fuel world = some (.ok result, state) → Unmasked options state →
      result.minimalityGuarantee = .oneMinimal ∨
        result.reductionEvidenceClass = .minimalityProven → RestsOnHealthy result state) :=
  ⟨fun _ _ => unhealthy_tells_iff, fun _ _ _ _ hrun => restsOnHealthy_of_run hrun⟩

def maskedOutcome : CandidateReplayOutcome :=
  { passOutcome with
    status := .failure
    anomalyFingerprint := some "other".toList
    executorFailure := some .executorNondeterministic }

def failingOptions : MinimizationOptions Unit :=
  { pairOptions realDevMinimizationBudget with
    replay := fun _ sequence _ =>
      (some (if sequence.length = 2 then failureOutcome else maskedOutcome), ()) }

theorem failing_executor_proves_minimality :
    Unhealthy maskedOutcome ∧ Tells maskedOutcome "fingerprint".toList ∧
      ((minimizeFailure failingOptions 10 ()).bind fun ended => ended.1.toOption).map
          (fun result => (result.minimalityGuarantee, result.reductionEvidenceClass)) =
        some (.oneMinimal, .minimalityProven) := by
  refine ⟨.inl ?_, .inr ?_, ?_⟩
  · exact Option.some_ne_none _
  · decide +kernel
  · decide +kernel

end Runs

end NightWatch.Triage.ExecutorHealth
