import NightWatch.Oracles.Receipts

namespace NightWatch.Oracles.Hook

open Lib.JsText Lib.JsData Lib.JsRuntime Oracles.Projections Oracles.Invariants Oracles.Semantic
  Oracles.Receipts

section Runner

variable (rt : Runtime) (sha256Hex : JsString → JsString)

def defaultProjectionLimits : ProjectionLimits := ⟨8, 64, 128, 1024, 256, 512, 1000000⟩

def projectAll (limits : ProjectionLimits) : List JsValue → ProjectionContext →
    Except SemanticProjectionError (List ProjectionNode × ProjectionContext)
  | [], ctx => .ok ([], ctx)
  | value :: rest, ctx => do
      let (result, ctx) ← projectValue limits value ctx
      let (roots, ctx) ← projectAll limits rest ctx
      return (result.root :: roots, ctx)

structure SemanticResponseEvaluationInput where
  oracleId : JsString
  expectation : SemanticExpectation
  rawValues : List JsValue
  sourceSnapshot : Option SourceSnapshot
  journeyId : Option JsString
  stepId : Option JsString
  operationId : Option JsString

def evaluateSemanticResponse (input : SemanticResponseEvaluationInput) :
    Option SemanticEvaluationResult :=
  match projectAll defaultProjectionLimits input.rawValues (.fresh defaultProjectionLimits) with
  | .error (.limitExceeded _) => some ⟨.projectionLimitExceeded, [], []⟩
  | .error (.unsupportedInput _) => some ⟨.invalidInput, [], []⟩
  | .ok (projections, ctx) =>
      evaluateSemanticExpectation rt sha256Hex
        { oracleId := input.oracleId
          expectation := input.expectation
          projections := projections
          ctx := ctx
          sourceSnapshot := input.sourceSnapshot
          journeyId := input.journeyId
          stepId := input.stepId
          operationId := input.operationId }

end Runner

section Hook

inductive RealSourceResolution where
  | resolved (expectation : SemanticExpectation) (sourceSnapshot : SourceSnapshot)
  | noExpectation
  | sourceUnavailable (expectation : SemanticExpectation)
  | sourceStale (expectation : SemanticExpectation)

structure SemanticResolutionEvaluationInput where
  resolution : RealSourceResolution
  rawText : JsString
  targetId : Option JsString
  acceptanceClass : Option SemanticEvidenceAcceptanceClass
  journeyId : Option JsString
  stepId : Option JsString
  operationId : Option JsString

structure SemanticHookResult where
  receipt : SemanticEvaluationReceipt
  findings : List SemanticOracleFinding
  privacyViolation : Bool

def semanticOutcomeToReceiptOutcome : SemanticOutcome → SemanticReceiptOutcome
  | .pass => .pass
  | .anomaly => .anomaly
  | .notApplicable => .notApplicable
  | .expectationUnavailable => .expectationSourceUnavailable
  | .expectationSourceStale => .expectationSourceStale
  | .invalidInput => .invalidInput
  | .projectionLimitExceeded => .projectionLimitExceeded
  | .partialCoverage => .partialCoverage
  | .expectationInvalid => .internalError

structure InvariantCounts where
  total : Nat
  pass : Nat
  na : Nat
  violation : Nat

/-- The tally of the verdicts; `INVALID_INPUT` is in the total only. -/
def countsFor (evaluations : List InvariantEvaluation) : InvariantCounts :=
  evaluations.foldl (fun counts item =>
    match item.verdict with
    | .pass => { counts with total := counts.total + 1, pass := counts.pass + 1 }
    | .notApplicable => { counts with total := counts.total + 1, na := counts.na + 1 }
    | .violated => { counts with total := counts.total + 1, violation := counts.violation + 1 }
    | .invalidInput => { counts with total := counts.total + 1 }) ⟨0, 0, 0, 0⟩

def coverageOf (evaluations : List InvariantEvaluation) : Option InvariantEvaluation :=
  evaluations.find? fun e => e.coverageState.isSome

def hookOracleId : JsString := "real-source-semantic-hook".toList

variable (rt : Runtime) (sha256Hex : JsString → JsString)
  (input : SemanticResolutionEvaluationInput)

def baseReceipt (outcome : SemanticReceiptOutcome) : SemanticReceiptInput where
  oracleId := hookOracleId
  outcome := outcome
  acceptanceClass := input.acceptanceClass
  targetId := input.targetId
  journeyId := input.journeyId
  stepId := input.stepId
  operationId := input.operationId.or input.targetId

def expectationReceipt (outcome : SemanticReceiptOutcome) (expectation : SemanticExpectation) :
    SemanticReceiptInput :=
  { baseReceipt input outcome with
    expectationId := some expectation.expectationId
    sourceProvenance := some expectation.sourceProvenance }

def evaluationReceipt (expectation : SemanticExpectation) (evaluation : SemanticEvaluationResult) :
    SemanticReceiptInput :=
  let counts := countsFor evaluation.invariantEvaluations
  let coverage := coverageOf evaluation.invariantEvaluations
  { expectationReceipt input (semanticOutcomeToReceiptOutcome evaluation.outcome) expectation with
    projectionDigests :=
      if evaluation.outcome = .anomaly then
        (evaluation.findings.head?.map SemanticOracleFinding.projectionDigests).getD []
      else []
    invariantTotal := counts.total
    invariantPassCount := counts.pass
    invariantNaCount := counts.na
    invariantViolationCount := counts.violation
    findingCount := evaluation.findings.length
    -- an invariant without coverage can make the evaluation partial
    coverageState :=
      if evaluation.outcome = .partialCoverage then some .partialCoverageNoViolation
      else coverage.bind InvariantEvaluation.coverageState
    inspectedItemCount := coverage.bind InvariantEvaluation.inspectedItemCount
    violatingItemCount := coverage.bind InvariantEvaluation.violatingItemCount }

def internalErrorReceipt (expectation : SemanticExpectation) : SemanticReceiptInput :=
  { baseReceipt input .internalError with expectationId := some expectation.expectationId }

def responseEvaluation (expectation : SemanticExpectation) (sourceSnapshot : SourceSnapshot)
    (rawValue : JsValue) : Option SemanticEvaluationResult :=
  evaluateSemanticResponse rt sha256Hex
    { oracleId := hookOracleId
      expectation := expectation
      rawValues := [rawValue]
      sourceSnapshot := some sourceSnapshot
      journeyId := input.journeyId
      stepId := input.stepId
      operationId := some (input.operationId.getD expectation.targetId) }

def hookFindings (evaluation : SemanticEvaluationResult) : List SemanticOracleFinding :=
  if evaluation.outcome = .anomaly then evaluation.findings else []

def hookResult (receipt : SemanticReceiptInput) (findings : List SemanticOracleFinding)
    (privacyViolation : Bool) : Except ReceiptError SemanticHookResult := do
  let built ← buildSemanticEvaluationReceipt rt sha256Hex receipt
  return ⟨built, findings, privacyViolation⟩

def evaluateSemanticResolution : Except ReceiptError SemanticHookResult :=
  match input.resolution with
  | .noExpectation => hookResult rt sha256Hex (baseReceipt input .noExpectation) [] false
  | .sourceUnavailable expectation =>
      hookResult rt sha256Hex
        (expectationReceipt input .expectationSourceUnavailable expectation) [] false
  | .sourceStale expectation =>
      hookResult rt sha256Hex (expectationReceipt input .expectationSourceStale expectation) [] false
  | .resolved expectation sourceSnapshot =>
      match rt.jsonParse input.rawText with
      | none => hookResult rt sha256Hex (expectationReceipt input .invalidInput expectation) [] false
      | some rawValue =>
          match responseEvaluation rt sha256Hex input expectation sourceSnapshot rawValue with
          | none => hookResult rt sha256Hex (internalErrorReceipt input expectation) [] true
          | some evaluation =>
              hookResult rt sha256Hex (evaluationReceipt input expectation evaluation)
                (hookFindings evaluation) false

end Hook

def countOf (verdict : InvariantVerdict) (evaluations : List InvariantEvaluation) : Nat :=
  evaluations.countP fun e => e.verdict = verdict

theorem countsFor_eq (evaluations : List InvariantEvaluation) :
    countsFor evaluations = ⟨evaluations.length, countOf .pass evaluations,
      countOf .notApplicable evaluations, countOf .violated evaluations⟩ := by
  induction evaluations using List.reverseRecOn with
  | nil => rfl
  | append_singleton done item ih =>
      rw [countsFor, List.foldl_append, ← countsFor, ih]
      simp only [List.foldl_cons, List.foldl_nil, countOf, List.countP_append, List.length_append]
      cases hverdict : item.verdict <;> simp [hverdict]

theorem length_eq_counts (evaluations : List InvariantEvaluation) :
    evaluations.length = countOf .pass evaluations + countOf .notApplicable evaluations +
      countOf .violated evaluations + countOf .invalidInput evaluations := by
  induction evaluations with
  | nil => rfl
  | cons item rest ih =>
      simp only [countOf, List.countP_cons, List.length_cons] at ih ⊢
      cases hverdict : item.verdict <;> simp <;> omega

theorem countOf_eq_zero {verdict : InvariantVerdict} {evaluations : List InvariantEvaluation} :
    countOf verdict evaluations = 0 ↔ ∀ e ∈ evaluations, e.verdict ≠ verdict := by
  rw [countOf, List.countP_eq_zero]
  simp only [decide_eq_true_eq, ne_eq]

section Evaluations

variable (numberText : ℚ → JsString) (ctx : ProjectionContext) (projections : List ProjectionNode)

/-- What an evaluation reports of its items. -/
structure Consistent (e : InvariantEvaluation) : Prop where
  counts : CoverageCounts e.coverageState e.inspectedItemCount e.violatingItemCount
  quiet : e.verdict ≠ .violated → ∀ n, e.violatingItemCount = some n → n = 0

theorem coverageCounts_none {state : Option CoverageState} (hstate : state ≠ some .violation) :
    CoverageCounts state none none := by
  constructor
  · intro n hn
    contradiction
  · intro h
    contradiction
  · intro _ n hn
    contradiction
  · intro _ n hn
    contradiction

theorem consistent_uncovered : Consistent uncovered := by
  constructor
  · exact coverageCounts_none (by decide)
  · intro _ n hn
    contradiction

theorem consistent_of (kind : InvariantKind) (verdict : InvariantVerdict)
    (relationId : Option JsString) : Consistent (.of kind verdict relationId) := by
  constructor
  · exact coverageCounts_none (by simp [InvariantEvaluation.of])
  · intro _ n hn
    contradiction

theorem consistent_evaluateItems (contract : CollectionItemContract) (truncated : Bool)
    (items : List ProjectionNode) : Consistent (evaluateItems contract truncated items) := by
  rw [evaluateItems]
  by_cases hviolating : 0 < violatingItems contract items
  · rw [if_pos hviolating]
    constructor
    · constructor
      · rintro n hn m hm
        obtain rfl := Option.some.inj hn
        obtain rfl := Option.some.inj hm
        exact List.countP_le_length
      · intro _
        exact ⟨_, rfl, hviolating⟩
      · simp
      · simp
    · simp
  · rw [if_neg hviolating]
    cases truncated with
    | true => exact ⟨⟨by simp, by simp, by simp, by simp⟩, by simp⟩
    | false => exact ⟨⟨by simp, by simp, by simp, by simp⟩, by simp⟩

theorem consistent_evaluateInvariant (invariant : InvariantDefinition) :
    Consistent (evaluateInvariant numberText ctx projections invariant) := by
  cases invariant with
  | collectionItemContract contract =>
      rw [evaluateInvariant]
      cases projections[0]? with
      | none => exact consistent_uncovered
      | some root =>
          simp only [evaluateCollection]
          split
          · exact consistent_uncovered
          · split
            · exact consistent_uncovered
            · exact consistent_evaluateItems ..
  | _ => exact consistent_of ..

end Evaluations

end NightWatch.Oracles.Hook
