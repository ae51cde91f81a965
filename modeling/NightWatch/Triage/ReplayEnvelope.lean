import NightWatch.Triage.ReplayPlan

namespace NightWatch.Triage.ReplayEnvelope

open Lib.JsText Lib.JsData Triage.Types ReplayPlan

inductive ReplayEnvelopeClassification where
  | pass
  | failure
  | invalid
  | preconditionDivergence
  | notExecuted
  deriving DecidableEq

def ReplayEnvelopeClassification.text : ReplayEnvelopeClassification → JsString
  | .pass => "PASS".toList
  | .failure => "FAILURE".toList
  | .invalid => "INVALID".toList
  | .preconditionDivergence => "PRECONDITION_DIVERGENCE".toList
  | .notExecuted => "NOT_EXECUTED".toList

inductive ReplayEnvelopeNotExecutedReason where
  | planValidationFailed
  | validatedNotExecuted
  deriving DecidableEq

def ReplayEnvelopeNotExecutedReason.text : ReplayEnvelopeNotExecutedReason → JsString
  | .planValidationFailed => "PLAN_VALIDATION_FAILED".toList
  | .validatedNotExecuted => "VALIDATED_NOT_EXECUTED".toList

inductive ReplayEnvelopeReasonCode where
  | guardReason (reason : GuardReason)
  | planValidationFailed
  | validatedNotExecuted
  deriving DecidableEq

def ReplayEnvelopeReasonCode.text : ReplayEnvelopeReasonCode → JsString
  | .guardReason reason => reason.text
  | .planValidationFailed => "PLAN_VALIDATION_FAILED".toList
  | .validatedNotExecuted => "VALIDATED_NOT_EXECUTED".toList

def kindText : ReplayCandidateKind → JsString
  | .journey => "JOURNEY".toList
  | .exploration => "EXPLORATION".toList
  | .api => "API".toList

def phaseText : ReplayPhase → JsString
  | .freshExactReplay => "FRESH_EXACT_REPLAY".toList
  | .reducedCandidate => "REDUCED_CANDIDATE".toList

def statusText : ReplayStatus → JsString
  | .failure => "FAILURE".toList
  | .pass => "PASS".toList
  | .invalid => "INVALID".toList

def handlingText : DuplicateActionHandling → JsString
  | .unambiguousSingleOccurrence => "UNAMBIGUOUS_SINGLE_OCCURRENCE".toList
  | .occurrenceDistinguished => "OCCURRENCE_DISTINGUISHED".toList

structure ReplayEnvelopePlanIdentity where
  planId : Option JsString
  candidateKind : Option ReplayCandidateKind
  phase : Option ReplayPhase
  targetId : Option JsString
  anomalyFingerprint : Option JsString
  deriving DecidableEq

structure ReplayEnvelopeValidationOutcome where
  passed : Bool
  reason : Option JsString
  deriving DecidableEq

inductive ReplayEnvelopeExecutionOutcome where
  | executed (outcome : CandidateReplayOutcome)
  | notExecuted (reason : ReplayEnvelopeNotExecutedReason)
  deriving DecidableEq

structure ReplayEnvelopeOccurrenceIdentity where
  ordinal : ℤ
  actionId : JsString
  identityToken : JsString
  deriving DecidableEq

structure ReplayEnvelopeDuplicateAccounting where
  handling : DuplicateActionHandling
  retainedOccurrenceCount : ℤ
  distinctRetainedActionCount : ℤ
  deduplicatedActionCount : ℤ
  deriving DecidableEq

structure ReplayResultEnvelope where
  plan : ReplayEnvelopePlanIdentity
  validation : ReplayEnvelopeValidationOutcome
  execution : ReplayEnvelopeExecutionOutcome
  occurrenceIdentities : List ReplayEnvelopeOccurrenceIdentity
  unresolvedOccurrenceCount : ℤ
  duplicates : ReplayEnvelopeDuplicateAccounting
  executorCallCount : ℤ
  classification : ReplayEnvelopeClassification
  reasonCodes : List ReplayEnvelopeReasonCode
  deriving DecidableEq

def envelopeVersion : JsString := "nightwatch.triage-replay-envelope.private.v1".toList

def planVersion : JsString := "nightwatch.triage-replay-plan.private.v2".toList

/-- `CONTRACT_IDENTITY_RE`. -/
def isContractIdentity : JsString → Bool := isTagged "sci:sha256:" 24

/-- `VALIDATION_REASON_RE`. -/
def isValidationReason : JsString → Bool :=
  upTo 160 fun c => c.isAlphanum || c ∈ "_:./-".toList

def maxIdentityOrdinal : ℤ := 999999

def maxResolvedIdentities : Nat := 64

def maxReasonCodes : Nat := 8

def maxBoundedCount : ℤ := 999999

def maxExecutorCalls : ℤ := 64

def maxSafetyCounter : Nat := 1000000

/-- `isBoundedInt` of a whole number. -/
def isWithin (value min max : ℤ) : Bool := decide (min ≤ value ∧ value ≤ max)

/-- `isBoundedInt(value, 0, MAX_SAFETY_COUNTER)`. -/
def isSafetyCounter (value : JsNumber) : Bool :=
  value.isInteger && value.ge (.ofNat 0) && (JsNumber.ofNat maxSafetyCounter).ge value

def SafetyCounters (safety : SafetyVector) : List JsNumber :=
  [safety.productionAttempts, safety.proxyViolations, safety.unknownDestinations,
    safety.unknownApprovals, safety.knownMutations, safety.actionCausedUnknown, safety.dbQueries]

def validateSafetyVectorShape (safety : SafetyVector) : Bool :=
  (SafetyCounters safety).all isSafetyCounter

def replayEnvelopeClassificationFromValidationReason (reason : JsString) :
    ReplayEnvelopeClassification :=
  if reason = "PRECONDITION_DIVERGENCE".toList then .preconditionDivergence else .invalid

def replayEnvelopeClassificationFromOutcome (outcome : CandidateReplayOutcome) :
    ReplayEnvelopeClassification :=
  match outcome.status with
  | .failure => .failure
  | .pass => .pass
  | .invalid =>
      if outcome.invalidReason = some .preconditionDivergence then .preconditionDivergence
      else .invalid

def echoed (pattern : JsString → Bool) (value : JsString) : Option JsString :=
  if pattern value then some value else none

def sanitizedPlanIdentity (plan : TriageReplayPlanV2) : ReplayEnvelopePlanIdentity where
  planId := echoed isPlanId plan.planId
  candidateKind := some plan.candidateKind
  phase := some plan.phase
  targetId := echoed (fun id => isActionId id && !hasSentinel id) plan.targetId
  anomalyFingerprint := echoed isFingerprint plan.anomalyFingerprint

def fullPlanIdentity (plan : TriageReplayPlanV2) : Except JsString ReplayEnvelopePlanIdentity := do
  let identity := sanitizedPlanIdentity plan
  failIf (identity.planId.isNone || identity.candidateKind.isNone || identity.phase.isNone ||
    identity.targetId.isNone || identity.anomalyFingerprint.isNone)
    "REPLAY_ENVELOPE_PLAN_IDENTITY_INCOMPLETE".toList
  .ok identity

def resolveOrdinal (originalOccurrences : List ReplayOccurrence) (ordinal : ℤ) :
    Option ReplayEnvelopeOccurrenceIdentity :=
  (actionOf originalOccurrences ordinal).bind fun id =>
    if !isActionId id || hasSentinel id then none
    else some { ordinal, actionId := id, identityToken := tokenText id ordinal }

/-- `resolveOccurrenceIdentities`: the ordinals in range, each once and in order, and only the
first of them. -/
def resolvedIdentities (originalOccurrences : List ReplayOccurrence)
    (retainedOrdinals : List ℤ) : List ReplayEnvelopeOccurrenceIdentity :=
  let valid := retainedOrdinals.filter fun ordinal => isWithin ordinal 0 maxIdentityOrdinal
  (valid.dedup.mergeSort.take maxResolvedIdentities).filterMap
    (resolveOrdinal originalOccurrences)

def unresolvedCount (originalOccurrences : List ReplayOccurrence)
    (retainedOrdinals : List ℤ) : ℤ :=
  retainedOrdinals.length - (resolvedIdentities originalOccurrences retainedOrdinals).length

def duplicateAccounting (originalOccurrences : List ReplayOccurrence)
    (retainedOrdinals : List ℤ) : ReplayEnvelopeDuplicateAccounting :=
  let retainedIds := retainedOrdinals.filterMap (actionOf originalOccurrences)
  { handling := duplicateActionHandling originalOccurrences
    retainedOccurrenceCount := retainedOrdinals.length
    distinctRetainedActionCount := retainedIds.dedup.length
    deduplicatedActionCount := retainedOrdinals.length - retainedIds.dedup.length }

def assertOptional (value : Option JsString) (pattern : JsString → Bool) (reason : String) :
    Except JsString Unit :=
  failIf (value.any fun text => !pattern text) reason.toList

def sanitizedExecutorOutcome (outcome : CandidateReplayOutcome) :
    Except JsString CandidateReplayOutcome := do
  failIf (!validateSafetyVectorShape outcome.safety) "REPLAY_ENVELOPE_SAFETY_VECTOR_INVALID".toList
  assertOptional outcome.anomalyFingerprint isFingerprint
    "REPLAY_ENVELOPE_ANOMALY_FINGERPRINT_INVALID"
  assertOptional outcome.semanticFindingFingerprint isFingerprint
    "REPLAY_ENVELOPE_SEMANTIC_FINGERPRINT_INVALID"
  assertOptional outcome.semanticContractIdentity isContractIdentity
    "REPLAY_ENVELOPE_CONTRACT_IDENTITY_INVALID"
  assertOptional outcome.routeClass isRouteClass "REPLAY_ENVELOPE_ROUTE_CLASS_INVALID"
  .ok { outcome with executorFailure := none }

def codeLe (a b : ReplayEnvelopeReasonCode) : Bool := decide (textLe a.text b.text)

def sortedCodes (codes : List ReplayEnvelopeReasonCode) :
    Except JsString (List ReplayEnvelopeReasonCode) := do
  failIf (decide (maxReasonCodes < codes.length)) "REPLAY_ENVELOPE_TOO_MANY_REASON_CODES".toList
  .ok (codes.mergeSort codeLe)

def boundedValidationReason (reason : JsString) : JsString :=
  if isValidationReason reason && !hasSentinel reason then reason
  else "VALIDATION_REASON_UNAVAILABLE".toList

def guardReasons : List GuardReason :=
  [.actionNotInOriginal, .actionNotApproved, .preconditionDivergence, .devGateFailed,
    .authGateFailed, .outboundPolicyFailed, .semanticPolicyFailed, .mutationTripwire,
    .unknownTripwire, .routeEnvelopeFailed, .privacyPolicyFailed, .safetyVectorNonzero]

def validationFailureReplayResultEnvelope (plan : TriageReplayPlanV2) (reason : JsString) :
    Except JsString ReplayResultEnvelope := do
  let guardCodes := (guardReasons.filter fun guard => guard.text = reason).map
    ReplayEnvelopeReasonCode.guardReason
  let codes ← sortedCodes (.planValidationFailed :: guardCodes)
  .ok {
    plan := sanitizedPlanIdentity plan
    validation := { passed := false, reason := some (boundedValidationReason reason) }
    execution := .notExecuted .planValidationFailed
    occurrenceIdentities :=
      resolvedIdentities plan.originalOccurrences plan.retainedOccurrenceOrdinals
    unresolvedOccurrenceCount :=
      unresolvedCount plan.originalOccurrences plan.retainedOccurrenceOrdinals
    duplicates := duplicateAccounting plan.originalOccurrences plan.retainedOccurrenceOrdinals
    executorCallCount := 0
    classification := replayEnvelopeClassificationFromValidationReason reason
    reasonCodes := codes }

def outcomeCodes (outcome : CandidateReplayOutcome)
    (classification : ReplayEnvelopeClassification) : List ReplayEnvelopeReasonCode :=
  match classification with
  | .invalid => (outcome.invalidReason.map ReplayEnvelopeReasonCode.guardReason).toList
  | .preconditionDivergence =>
      ((outcome.invalidReason.map ReplayEnvelopeReasonCode.guardReason).toList).insert
        (.guardReason .preconditionDivergence)
  | _ => []

def executedReplayResultEnvelope (validated : TriageReplayPlanV2)
    (outcome : CandidateReplayOutcome) (executorCallCount : ℤ) :
    Except JsString ReplayResultEnvelope := do
  failIf (!isWithin executorCallCount 0 maxExecutorCalls)
    "REPLAY_ENVELOPE_EXECUTOR_CALL_COUNT_INVALID".toList
  let canonicalOutcome ← sanitizedExecutorOutcome outcome
  let classification := replayEnvelopeClassificationFromOutcome canonicalOutcome
  let identity ← fullPlanIdentity validated
  let codes ← sortedCodes (outcomeCodes canonicalOutcome classification)
  .ok {
    plan := identity
    validation := { passed := true, reason := none }
    execution := .executed canonicalOutcome
    occurrenceIdentities :=
      resolvedIdentities validated.originalOccurrences validated.retainedOccurrenceOrdinals
    unresolvedOccurrenceCount :=
      unresolvedCount validated.originalOccurrences validated.retainedOccurrenceOrdinals
    duplicates :=
      duplicateAccounting validated.originalOccurrences validated.retainedOccurrenceOrdinals
    executorCallCount
    classification
    reasonCodes := codes }

def identityTexts (identity : ReplayEnvelopeOccurrenceIdentity) : List JsString :=
  [identity.actionId, identity.identityToken]

def outcomeTexts (outcome : CandidateReplayOutcome) : List JsString :=
  statusText outcome.status :: outcome.anomalyFingerprint.toList ++
    outcome.semanticFindingFingerprint.toList ++ outcome.semanticContractIdentity.toList ++
    (outcome.invalidReason.map GuardReason.text).toList ++ outcome.routeClass.toList

def executionTexts : ReplayEnvelopeExecutionOutcome → List JsString
  | .executed outcome => outcomeTexts outcome
  | .notExecuted reason => [reason.text]

def planTexts (plan : ReplayEnvelopePlanIdentity) : List JsString :=
  planVersion :: plan.planId.toList ++ (plan.candidateKind.map kindText).toList ++
    (plan.phase.map phaseText).toList ++ plan.targetId.toList ++ plan.anomalyFingerprint.toList

/-- The texts that `assertNoSentinels` comes to. -/
def envelopeTexts (envelope : ReplayResultEnvelope) : List JsString :=
  envelopeVersion :: planTexts envelope.plan ++ envelope.validation.reason.toList ++
    executionTexts envelope.execution ++ envelope.occurrenceIdentities.flatMap identityTexts ++
    [handlingText envelope.duplicates.handling, envelope.classification.text] ++
    envelope.reasonCodes.map ReplayEnvelopeReasonCode.text

def checkPlanIdentity (plan : ReplayEnvelopePlanIdentity) : Except JsString Unit := do
  assertOptional plan.planId isPlanId "REPLAY_ENVELOPE_PLAN_ID_INVALID"
  assertOptional plan.targetId isActionId "REPLAY_ENVELOPE_PLAN_TARGET_INVALID"
  assertOptional plan.anomalyFingerprint isFingerprint "REPLAY_ENVELOPE_PLAN_FINGERPRINT_INVALID"

def checkValidation (validation : ReplayEnvelopeValidationOutcome) : Except JsString Unit := do
  failIf (validation.passed && validation.reason.isSome)
    "REPLAY_ENVELOPE_VALIDATION_REASON_UNEXPECTED".toList
  failIf (!validation.passed && !validation.reason.any isValidationReason)
    "REPLAY_ENVELOPE_VALIDATION_REASON_INVALID".toList

def checkExecution : ReplayEnvelopeExecutionOutcome → Except JsString Unit
  | .notExecuted _ => .ok ()
  | .executed outcome => do
      failIf (!validateSafetyVectorShape outcome.safety)
        "REPLAY_ENVELOPE_OUTCOME_SAFETY_INVALID".toList
      assertOptional outcome.anomalyFingerprint isFingerprint
        "REPLAY_ENVELOPE_OUTCOME_FINGERPRINT_INVALID"
      assertOptional outcome.semanticFindingFingerprint isFingerprint
        "REPLAY_ENVELOPE_OUTCOME_SEMANTIC_FINGERPRINT_INVALID"
      assertOptional outcome.semanticContractIdentity isContractIdentity
        "REPLAY_ENVELOPE_OUTCOME_CONTRACT_IDENTITY_INVALID"
      assertOptional outcome.routeClass isRouteClass "REPLAY_ENVELOPE_OUTCOME_ROUTE_INVALID"

def checkIdentities : (seen : List ℤ) → List ReplayEnvelopeOccurrenceIdentity → Except JsString Unit
  | _, [] => .ok ()
  | seen, identity :: rest => do
      failIf (!isWithin identity.ordinal 0 maxIdentityOrdinal)
        "REPLAY_ENVELOPE_IDENTITY_ORDINAL_INVALID".toList
      failIf (!isActionId identity.actionId) "REPLAY_ENVELOPE_IDENTITY_ACTION_INVALID".toList
      failIf (decide (identity.ordinal ∈ seen)) "REPLAY_ENVELOPE_IDENTITY_ORDINAL_DUPLICATE".toList
      failIf (decide (identity.identityToken ≠ tokenText identity.actionId identity.ordinal))
        "REPLAY_ENVELOPE_IDENTITY_TOKEN_MISMATCH".toList
      checkIdentities (identity.ordinal :: seen) rest

def checkDuplicates (duplicates : ReplayEnvelopeDuplicateAccounting) : Except JsString Unit := do
  failIf (!isWithin duplicates.retainedOccurrenceCount 0 maxBoundedCount)
    "REPLAY_ENVELOPE_DUPLICATES_RETAINED_INVALID".toList
  failIf (!isWithin duplicates.distinctRetainedActionCount 0 maxBoundedCount)
    "REPLAY_ENVELOPE_DUPLICATES_DISTINCT_INVALID".toList
  failIf (!isWithin duplicates.deduplicatedActionCount 0 maxBoundedCount)
    "REPLAY_ENVELOPE_DUPLICATES_DEDUP_INVALID".toList
  failIf (decide (duplicates.deduplicatedActionCount ≠
      duplicates.retainedOccurrenceCount - duplicates.distinctRetainedActionCount))
    "REPLAY_ENVELOPE_DUPLICATES_ARITHMETIC_INVALID".toList
  failIf (decide (0 < duplicates.deduplicatedActionCount ∧
      duplicates.handling ≠ .occurrenceDistinguished))
    "REPLAY_ENVELOPE_DUPLICATES_HANDLING_COHERENCE_INVALID".toList

def checkCodes (codes : List ReplayEnvelopeReasonCode) : Except JsString Unit := do
  failIf (decide (maxReasonCodes < codes.length)) "REPLAY_ENVELOPE_REASON_CODES_INVALID".toList
  failIf (decide ¬ codes.Nodup) "REPLAY_ENVELOPE_REASON_CODE_DUPLICATE".toList
  failIf (decide ¬ codes.IsChain fun a b => codeLe a b = true)
    "REPLAY_ENVELOPE_REASON_CODES_NOT_SORTED".toList

def checkCoherence (envelope : ReplayResultEnvelope) : Except JsString Unit :=
  let classification := envelope.classification
  let divergenceCode : ReplayEnvelopeReasonCode := .guardReason .preconditionDivergence
  match envelope.validation.passed, envelope.execution with
  | false, .executed _ => .error "REPLAY_ENVELOPE_EXECUTED_WITH_FAILED_VALIDATION".toList
  | false, .notExecuted reason => do
      failIf (decide (reason ≠ .planValidationFailed))
        "REPLAY_ENVELOPE_NOT_EXECUTED_REASON_COHERENCE_INVALID".toList
      failIf (decide (envelope.executorCallCount ≠ 0))
        "REPLAY_ENVELOPE_EXECUTOR_CALLED_WITH_FAILED_VALIDATION".toList
      failIf (decide (classification ≠ .invalid ∧ classification ≠ .preconditionDivergence))
        "REPLAY_ENVELOPE_CLASSIFICATION_COHERENCE_INVALID".toList
      failIf (decide (.planValidationFailed ∉ envelope.reasonCodes))
        "REPLAY_ENVELOPE_MISSING_PLAN_VALIDATION_FAILED_CODE".toList
      failIf (decide (classification = .preconditionDivergence ∧
          divergenceCode ∉ envelope.reasonCodes))
        "REPLAY_ENVELOPE_MISSING_PRECONDITION_DIVERGENCE_CODE".toList
  | true, .notExecuted reason => do
      failIf (decide (classification ≠ .notExecuted))
        "REPLAY_ENVELOPE_CLASSIFICATION_COHERENCE_INVALID".toList
      failIf (decide (reason ≠ .validatedNotExecuted))
        "REPLAY_ENVELOPE_NOT_EXECUTED_REASON_COHERENCE_INVALID".toList
      failIf (decide (envelope.executorCallCount ≠ 0))
        "REPLAY_ENVELOPE_EXECUTOR_CALLED_WITHOUT_EXECUTION".toList
      failIf (decide (.validatedNotExecuted ∉ envelope.reasonCodes))
        "REPLAY_ENVELOPE_MISSING_VALIDATED_NOT_EXECUTED_CODE".toList
  | true, .executed outcome => do
      failIf (decide (classification = .notExecuted))
        "REPLAY_ENVELOPE_CLASSIFICATION_COHERENCE_INVALID".toList
      failIf (decide (envelope.executorCallCount < 1))
        "REPLAY_ENVELOPE_EXECUTED_WITHOUT_EXECUTOR_CALL".toList
      failIf (decide (classification = .pass ∧ outcome.status ≠ .pass))
        "REPLAY_ENVELOPE_CLASSIFICATION_OUTCOME_MISMATCH".toList
      failIf (decide (classification = .failure ∧ outcome.status ≠ .failure))
        "REPLAY_ENVELOPE_CLASSIFICATION_OUTCOME_MISMATCH".toList
      failIf (decide ((classification = .invalid ∨ classification = .preconditionDivergence) ∧
          outcome.status ≠ .invalid))
        "REPLAY_ENVELOPE_CLASSIFICATION_OUTCOME_MISMATCH".toList
      failIf (decide (classification = .preconditionDivergence ∧
          divergenceCode ∉ envelope.reasonCodes))
        "REPLAY_ENVELOPE_MISSING_PRECONDITION_DIVERGENCE_CODE".toList

/-- `validateReplayResultEnvelope` on a value of the envelope's type: the tests of `typeof`,
of unknown fields and of the closed vocabularies pass. -/
def validateReplayResultEnvelope (envelope : ReplayResultEnvelope) : Except JsString Unit := do
  failIf ((envelopeTexts envelope).any hasSentinel) "REPLAY_ENVELOPE_PRIVACY_BLOCKED".toList
  checkPlanIdentity envelope.plan
  checkValidation envelope.validation
  checkExecution envelope.execution
  failIf (decide (maxResolvedIdentities < envelope.occurrenceIdentities.length))
    "REPLAY_ENVELOPE_IDENTITIES_INVALID".toList
  checkIdentities [] envelope.occurrenceIdentities
  failIf (!isWithin envelope.unresolvedOccurrenceCount 0 maxBoundedCount)
    "REPLAY_ENVELOPE_UNRESOLVED_COUNT_INVALID".toList
  failIf (decide (0 < envelope.unresolvedOccurrenceCount) && envelope.validation.passed)
    "REPLAY_ENVELOPE_UNRESOLVED_WITH_PASSED_VALIDATION".toList
  checkDuplicates envelope.duplicates
  failIf (decide ((envelope.occurrenceIdentities.length : ℤ) +
      envelope.unresolvedOccurrenceCount ≠ envelope.duplicates.retainedOccurrenceCount))
    "REPLAY_ENVELOPE_OCCURRENCE_ACCOUNTING_INVALID".toList
  failIf (!isWithin envelope.executorCallCount 0 maxExecutorCalls)
    "REPLAY_ENVELOPE_EXECUTOR_CALL_COUNT_INVALID".toList
  checkCodes envelope.reasonCodes
  checkCoherence envelope

def parseReplayResultEnvelope (envelope : ReplayResultEnvelope) :
    Except JsString ReplayResultEnvelope :=
  match validateReplayResultEnvelope envelope with
  | .error reason => .error ("REPLAY_ENVELOPE_INVALID:".toList ++ reason)
  | .ok () => .ok envelope

end NightWatch.Triage.ReplayEnvelope
