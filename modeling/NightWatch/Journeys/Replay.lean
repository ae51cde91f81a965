import NightWatch.Lib.CanonicalText
import NightWatch.Lib.TextOrder

/-!
The comparison of a journey with its replay in a fresh context: strict channels, bounded
variance, and the classifier that decides whether the replay confirms the journey. The numbers
of a record are finite, as they are read from JSON.
-/

namespace NightWatch.Journeys.Replay

open Lib.JsText Lib.JsData Lib.JsRuntime Lib.TextOrder Lib.CanonicalText Lib.Slots

inductive JourneyActionType where
  | navigateApprovedRoute
  | clickReadOnlyControl
  | selectLocalView
  | selectReadQueryFilter
  | openReadOnlyDetail
  | waitStructuralCheckpoint

def JourneyActionType.text : JourneyActionType → String
  | .navigateApprovedRoute => "NAVIGATE_APPROVED_ROUTE"
  | .clickReadOnlyControl => "CLICK_READ_ONLY_CONTROL"
  | .selectLocalView => "SELECT_LOCAL_VIEW"
  | .selectReadQueryFilter => "SELECT_READ_QUERY_FILTER"
  | .openReadOnlyDetail => "OPEN_READ_ONLY_DETAIL"
  | .waitStructuralCheckpoint => "WAIT_STRUCTURAL_CHECKPOINT"

inductive JourneyStepStatus where
  | pass
  | fail
  | stopped

def JourneyStepStatus.text : JourneyStepStatus → String
  | .pass => "PASS"
  | .fail => "FAIL"
  | .stopped => "STOPPED"

structure JourneyStepResult where
  stepId : JsString
  actionType : JourneyActionType
  status : JourneyStepStatus
  structuralMarkerId : JsString
  structuralPresent : Bool
  requiredReadRuleIds : List JsString
  failureClassification : Option JsString

inductive EndpointSemanticClassification where
  | knownRead
  | knownMutation
  | unknown

def EndpointSemanticClassification.text : EndpointSemanticClassification → String
  | .knownRead => "KNOWN_READ"
  | .knownMutation => "KNOWN_MUTATION"
  | .unknown => "UNKNOWN"

inductive SemanticRequestDisposition where
  | knownRead
  | knownMutation
  | passiveUnknownObserved
  | actionCausedUnknown
  deriving DecidableEq

def SemanticRequestDisposition.text : SemanticRequestDisposition → String
  | .knownRead => "KNOWN_READ"
  | .knownMutation => "KNOWN_MUTATION"
  | .passiveUnknownObserved => "PASSIVE_UNKNOWN_OBSERVED"
  | .actionCausedUnknown => "ACTION_CAUSED_UNKNOWN"

structure JourneySemanticRequest where
  ruleId : JsString
  classification : EndpointSemanticClassification
  disposition : SemanticRequestDisposition
  method : JsString
  stepId : Option JsString
  actionType : Option JsString

structure JourneySafetyCounts where
  productionAttempts : ℚ
  proxyViolations : ℚ
  unknownDestinations : ℚ
  unknownApprovals : ℚ
  mutations : ℚ
  dbQueries : ℚ
  actionCausedUnknown : ℚ

structure BoundedFields where
  optionalSupportBlockedDelta : Option ℚ
  telemetryBlockedDelta : Option ℚ
  browserBackgroundBlockedDelta : Option ℚ
  nonCriticalResourceFailureDelta : Option ℚ
  cleanupIncompleteDelta : Option ℚ
  networkConcurrencyDelta : Option ℚ
  deriving DecidableEq

structure JourneyVarianceEvidence extends BoundedFields where
  requestCount : Option ℚ

inductive JourneyOracleSeverity where
  | info
  | warning
  | error
  | fatal

def JourneyOracleSeverity.text : JourneyOracleSeverity → String
  | .info => "INFO"
  | .warning => "WARNING"
  | .error => "ERROR"
  | .fatal => "FATAL"

inductive JourneyAnomalyClass where
  | nightwatchDefect
  | productBehaviorAnomaly
  | devInfraTransient
  | browserBackground
  | expectedContainment
  | authStateInvalid
  | sourceContractStale
  | knownTransient
  | unknown
  deriving DecidableEq

def JourneyAnomalyClass.text : JourneyAnomalyClass → String
  | .nightwatchDefect => "NIGHTWATCH_DEFECT"
  | .productBehaviorAnomaly => "PRODUCT_BEHAVIOR_ANOMALY"
  | .devInfraTransient => "DEV_INFRA_TRANSIENT"
  | .browserBackground => "BROWSER_BACKGROUND"
  | .expectedContainment => "EXPECTED_CONTAINMENT"
  | .authStateInvalid => "AUTH_STATE_INVALID"
  | .sourceContractStale => "SOURCE_CONTRACT_STALE"
  | .knownTransient => "KNOWN_TRANSIENT"
  | .unknown => "UNKNOWN"

structure JourneyOracleObservation where
  oracleId : JsString
  triggered : Bool
  severity : JourneyOracleSeverity
  anomalyClass : JourneyAnomalyClass
  fingerprint : Option JsString

structure JourneyResourceObservation where
  role : JsString
  state : JsString
  stepId : Option JsString

structure JourneyContainmentCounts where
  optionalSupportBlocked : ℚ
  telemetryBlocked : ℚ
  browserBackgroundBlocked : ℚ
  deriving DecidableEq

inductive RunStatus where
  | pass
  | fail
  deriving DecidableEq

inductive JourneyCaptureStatus where
  | complete
  | incomplete
  | unknown
  deriving DecidableEq

inductive JourneyObservationSettlement where
  | settled
  | timedOut
  | notApplicable
  deriving DecidableEq

inductive JourneyCaptureFailureCode where
  | bodyUnavailable
  | bodyLengthMismatch
  | bodySizeLimitExceeded
  | bodyReadTimeout
  | bodyReadAcquisitionBound
  | responseProcessingError

def JourneyCaptureFailureCode.text : JourneyCaptureFailureCode → String
  | .bodyUnavailable => "BODY_UNAVAILABLE"
  | .bodyLengthMismatch => "BODY_LENGTH_MISMATCH"
  | .bodySizeLimitExceeded => "BODY_SIZE_LIMIT_EXCEEDED"
  | .bodyReadTimeout => "BODY_READ_TIMEOUT"
  | .bodyReadAcquisitionBound => "BODY_READ_ACQUISITION_BOUND"
  | .responseProcessingError => "RESPONSE_PROCESSING_ERROR"

structure Flags where
  entries : List (JsString × Bool)
  nodup : (entries.map Prod.fst).Nodup

structure JourneyEvidence where
  journeyId : JsString
  contractSourceSha : JsString
  passed : Bool
  finalRouteClass : JsString
  globalShellReady : Bool
  journeyMarkers : Flags
  stepResults : List JourneyStepResult
  semanticRuleIds : List JsString
  semanticClasses : List EndpointSemanticClassification
  passiveUnknownCount : ℚ
  actionUnknownCount : ℚ
  mutationCount : ℚ
  routeStabilityMs : Option ℚ
  authValid : Bool
  oracleStatus : RunStatus
  privacyStatus : RunStatus
  safetyStatus : RunStatus
  contractVersion : Option JsString
  contractDigest : Option JsString
  semanticRequests : Option (List JourneySemanticRequest)
  safetyCounts : Option JourneySafetyCounts
  boundedVariance : Option JourneyVarianceEvidence
  oracleObservations : Option (List JourneyOracleObservation)
  /-- `failureAttribution?.primaryFailure`, where it is neither absent nor null. -/
  primaryFailure : Option JsString
  resourceObservations : Option (List JourneyResourceObservation)
  containmentCounts : Option JourneyContainmentCounts
  captureStatus : Option JourneyCaptureStatus
  observationSettlement : Option JourneyObservationSettlement
  captureFailureCodes : Option (List JourneyCaptureFailureCode)
  environmentInputDigest : Option JsString

section Values

def maxReplayCanonicalDepth : Nat := 64

def maxReplayCanonicalNodes : Nat := 8192

def maxReplayCanonicalBytes : Nat := 256 * 1024

mutual

def shaped (depth : Nat) : JsValue → Bool
  | .undefined => false
  | .null | .bool _ | .str _ => decide (depth ≤ maxReplayCanonicalDepth)
  | .num n => decide (depth ≤ maxReplayCanonicalDepth) && n.isFinite
  | .arr items => decide (depth ≤ maxReplayCanonicalDepth) && shapedItems (depth + 1) items
  | .obj fields => decide (depth ≤ maxReplayCanonicalDepth) && shapedFields (depth + 1) fields

def shapedItems (depth : Nat) : List JsValue → Bool
  | [] => true
  | item :: rest => shaped depth item && shapedItems depth rest

def shapedFields (depth : Nat) : List (JsString × JsValue) → Bool
  | [] => true
  | (_, value) :: rest => shaped depth value && shapedFields depth rest

end

mutual

def nodes : JsValue → Nat
  | .arr items => 1 + nodesOfItems items
  | .obj fields => 1 + nodesOfFields fields
  | .undefined | .null | .bool _ | .num _ | .str _ => 0

def nodesOfItems : List JsValue → Nat
  | [] => 0
  | item :: rest => nodes item + nodesOfItems rest

def nodesOfFields : List (JsString × JsValue) → Nat
  | [] => 0
  | (_, value) :: rest => nodes value + nodesOfFields rest

end

variable (rt : Runtime)

/-- `stableJsonSorted`, for values without anything undefined. -/
def stableJsonSorted (value : JsValue) : JsString := canonical rt.numberText rt.localeLe value

/-- `isSupportedReplayValue` of both, and the limit of the texts. Both share one budget of nodes,
and one node too many refuses them wherever it is met. -/
def withinLimits (a b : JsValue) : Bool :=
  shaped 0 a && shaped 0 b && decide (nodes a + nodes b ≤ maxReplayCanonicalNodes) &&
    decide (utf16Length (stableJsonSorted rt a) ≤ maxReplayCanonicalBytes) &&
    decide (utf16Length (stableJsonSorted rt b) ≤ maxReplayCanonicalBytes)

def sameJson (a b : JsValue) : Bool :=
  withinLimits rt a b && decide (stableJsonSorted rt a = stableJsonSorted rt b)

def texts (items : List JsString) : JsValue := .arr (items.map .str)

def flags (record : Flags) : JsValue :=
  .obj (record.entries.map fun entry => (entry.1, .bool entry.2))

def safetyCountsValue (counts : JourneySafetyCounts) : JsValue :=
  .obj (ofSlots
    [("productionAttempts", some (.num (.finite counts.productionAttempts))),
      ("proxyViolations", some (.num (.finite counts.proxyViolations))),
      ("unknownDestinations", some (.num (.finite counts.unknownDestinations))),
      ("unknownApprovals", some (.num (.finite counts.unknownApprovals))),
      ("mutations", some (.num (.finite counts.mutations))),
      ("dbQueries", some (.num (.finite counts.dbQueries))),
      ("actionCausedUnknown", some (.num (.finite counts.actionCausedUnknown)))])

def stepValue (step : JourneyStepResult) : JsValue :=
  .obj (ofSlots
    [("id", some (.str step.stepId)), ("action", some (.str step.actionType.text.toList)),
      ("status", some (.str step.status.text.toList)),
      ("marker", some (.str step.structuralMarkerId)),
      ("present", some (.bool step.structuralPresent)),
      ("requiredReads", some (texts (step.requiredReadRuleIds.insertionSort textLe))),
      ("failure", some ((step.failureClassification.map .str).getD .null))])

end Values

section Channels

variable (rt : Runtime) (evidence : JourneyEvidence)

def steps : JsValue := .arr (evidence.stepResults.map stepValue)

def classes : JsValue := texts (evidence.semanticClasses.map (·.text.toList))

def semanticKey (item : JourneySemanticRequest) : JsString :=
  join '|' [item.ruleId, item.classification.text.toList, item.disposition.text.toList,
    rt.toUpperCase item.method, item.stepId.getD [], item.actionType.getD []]

def strictSemanticLedger : Option (List JsString) :=
  evidence.semanticRequests.map fun requests =>
    sortedSet ((requests.filter (·.disposition ≠ .passiveUnknownObserved)).map (semanticKey rt))

def semanticFamilies : List JsString := sortedSet evidence.semanticRuleIds

def oracleKey (item : JourneyOracleObservation) : JsString :=
  join '|' [item.oracleId, item.severity.text.toList, item.anomalyClass.text.toList,
    item.fingerprint.getD []]

def oracleKeys : Option (List JsString) :=
  evidence.oracleObservations.map fun observations =>
    ((observations.filter fun item =>
      item.triggered && item.anomalyClass ≠ .expectedContainment &&
        item.anomalyClass ≠ .browserBackground).map oracleKey).insertionSort textLe

def isCancellation (state : JsString) : Bool :=
  decide (state ∈ ["CANCELED_BY_NAVIGATION".toList, "CANCELED_BY_DOCUMENT_REPLACEMENT".toList,
    "CANCELED_BY_BROWSER".toList, "CANCELED_BY_POLICY".toList])

def resourceKey (item : JourneyResourceObservation) : JsString :=
  join '|' [item.role, item.state, item.stepId.getD []]

def resourceFailureKeys : Option (List JsString) :=
  evidence.resourceObservations.map fun observations =>
    ((observations.filter fun item =>
      decide (item.state ≠ "COMPLETED".toList) && decide (item.state ≠ "REQUESTED".toList) &&
        !isCancellation item.state).map resourceKey).insertionSort textLe

def resourceContainmentKeys : Option (List JsString) :=
  evidence.resourceObservations.map fun observations =>
    ((observations.filter fun item => isCancellation item.state).map resourceKey).insertionSort
      textLe

def requestCount : Option ℚ :=
  (evidence.boundedVariance.bind (·.requestCount)).or
    (evidence.semanticRequests.map fun requests => (requests.length : ℚ))

variable (first replay : JourneyEvidence)

def differ {α : Type} (same : α → α → Bool) : Option α → Option α → Bool
  | some a, some b => !same a b
  | _, _ => false

def sameTexts (a b : List JsString) : Bool := sameJson rt (texts a) (texts b)

def sameMarkers : Bool :=
  first.globalShellReady == replay.globalShellReady &&
    sameJson rt (flags first.journeyMarkers) (flags replay.journeyMarkers)

def sameContract : Bool :=
  if first.contractDigest.isSome && replay.contractDigest.isSome then
    first.journeyId == replay.journeyId && first.contractDigest == replay.contractDigest &&
      first.contractVersion == replay.contractVersion
  else first.journeyId == replay.journeyId && first.contractSourceSha == replay.contractSourceSha

def safetyEqual : Bool :=
  first.mutationCount == replay.mutationCount &&
    first.actionUnknownCount == replay.actionUnknownCount &&
    first.safetyStatus == replay.safetyStatus &&
    !differ (fun a b => sameJson rt (safetyCountsValue a) (safetyCountsValue b))
      first.safetyCounts replay.safetyCounts

/-- The distance of two durations or counts, where both are there. Two doubles that differ never
have a difference that is rounded to zero. -/
def delta : Option ℚ → Option ℚ → Option ℚ
  | some a, some b => some |a - b|
  | _, _ => none

inductive Mismatch where
  | journeyContract
  | finalRouteClass
  | structuralCheckpoints
  | stepResults
  | semanticEndpointFamilies
  | semanticRequestLedger
  | safetyLedger
  | authValidity
  | oracleSet
  | oracleOrResultStatus
  | resourceLifecycle
  | privacyStatus
  deriving DecidableEq

def Mismatch.text : Mismatch → String
  | .journeyContract => "journey-contract"
  | .finalRouteClass => "final-route-class"
  | .structuralCheckpoints => "structural-checkpoints"
  | .stepResults => "step-results"
  | .semanticEndpointFamilies => "semantic-endpoint-families"
  | .semanticRequestLedger => "semantic-request-ledger"
  | .safetyLedger => "safety-ledger"
  | .authValidity => "auth-validity"
  | .oracleSet => "oracle-set"
  | .oracleOrResultStatus => "oracle-or-result-status"
  | .resourceLifecycle => "resource-lifecycle"
  | .privacyStatus => "privacy-status"

inductive Variance where
  | resourceContainment
  | routeStabilityTiming
  | passiveUnknownCount
  | semanticRequestCount
  | backgroundAndCleanup
  | containmentCount
  deriving DecidableEq

def Variance.text : Variance → String
  | .resourceContainment => "resource-containment-variance"
  | .routeStabilityTiming => "route-stability-timing"
  | .passiveUnknownCount => "passive-unknown-count"
  | .semanticRequestCount => "semantic-request-count"
  | .backgroundAndCleanup => "background-and-cleanup-variance"
  | .containmentCount => "containment-count-variance"

inductive ReplayComparisonCategory where
  | match
  | strictMatch
  | boundedMatch
  | expectedVariance
  | expectedTimingVariance
  | expectedRequestCountVariance
  | expectedBackgroundVariance
  | structuralDivergence
  | routeDivergence
  | semanticRequestDivergence
  | oracleDivergence
  | safetyDivergence
  | authDivergence
  deriving DecidableEq

def mismatched : Mismatch → Bool
  | .journeyContract => !sameContract first replay
  | .finalRouteClass => first.finalRouteClass != replay.finalRouteClass
  | .structuralCheckpoints => !sameMarkers rt first replay
  | .stepResults => !sameJson rt (steps first) (steps replay)
  | .semanticEndpointFamilies =>
      !sameTexts rt (semanticFamilies first) (semanticFamilies replay) ||
        !sameJson rt (classes first) (classes replay)
  | .semanticRequestLedger =>
      differ (sameTexts rt) (strictSemanticLedger rt first) (strictSemanticLedger rt replay)
  | .safetyLedger => !safetyEqual rt first replay
  | .authValidity => first.authValid != replay.authValid
  | .oracleSet => differ (sameTexts rt) (oracleKeys first) (oracleKeys replay)
  | .oracleOrResultStatus =>
      first.oracleStatus != replay.oracleStatus || first.passed != replay.passed
  | .resourceLifecycle =>
      differ (sameTexts rt) (resourceFailureKeys first) (resourceFailureKeys replay)
  | .privacyStatus => first.privacyStatus != replay.privacyStatus

def Mismatch.category : Mismatch → ReplayComparisonCategory
  | .journeyContract | .semanticEndpointFamilies | .semanticRequestLedger =>
      .semanticRequestDivergence
  | .finalRouteClass => .routeDivergence
  | .structuralCheckpoints | .stepResults => .structuralDivergence
  | .safetyLedger | .privacyStatus => .safetyDivergence
  | .authValidity => .authDivergence
  | .oracleSet | .oracleOrResultStatus | .resourceLifecycle => .oracleDivergence

def strictChannels : List Mismatch :=
  [.journeyContract, .finalRouteClass, .structuralCheckpoints, .stepResults,
    .semanticEndpointFamilies, .semanticRequestLedger, .safetyLedger, .authValidity, .oracleSet,
    .oracleOrResultStatus, .resourceLifecycle, .privacyStatus]

def mismatches : List Mismatch := strictChannels.filter (mismatched rt first replay)

/-- Whether a bounded channel differs; the count of requests is looked at only where no strict
channel does. -/
def varied : Variance → Bool
  | .resourceContainment =>
      differ (sameTexts rt) (resourceContainmentKeys first) (resourceContainmentKeys replay)
  | .routeStabilityTiming =>
      (delta first.routeStabilityMs replay.routeStabilityMs).any (· ≠ 0)
  | .passiveUnknownCount => first.passiveUnknownCount != replay.passiveUnknownCount
  | .semanticRequestCount =>
      (delta (requestCount first) (requestCount replay)).any (· ≠ 0) &&
        decide (mismatches rt first replay = [])
  | .backgroundAndCleanup =>
      differ (fun a b => a.toBoundedFields == b.toBoundedFields)
        first.boundedVariance replay.boundedVariance
  | .containmentCount => differ (· == ·) first.containmentCounts replay.containmentCounts

def Variance.category : Variance → ReplayComparisonCategory
  | .resourceContainment | .backgroundAndCleanup | .containmentCount => .expectedBackgroundVariance
  | .routeStabilityTiming => .expectedTimingVariance
  | .passiveUnknownCount | .semanticRequestCount => .expectedRequestCountVariance

def boundedChannels : List Variance :=
  [.resourceContainment, .routeStabilityTiming, .passiveUnknownCount, .semanticRequestCount,
    .backgroundAndCleanup, .containmentCount]

def variance : List Variance := boundedChannels.filter (varied rt first replay)

end Channels

section Classification

variable (rt : Runtime) (first replay : JourneyEvidence)

inductive ReplayDivergenceClassification where
  | match
  | deterministicReplayMismatch
  | expectedProductStateDrift
  | timingOnlyObservationDifference
  | environmentDivergence
  | authDivergence
  | benignTelemetryVariation
  | frameworkCaptureDefect
  | unknownDivergence
  deriving DecidableEq

structure Classified where
  classification : ReplayDivergenceClassification
  reason : String
  diagnosticCodes : List JsString

def hasTriggeredAnomalyClass (evidence : JourneyEvidence) (anomalyClass : JourneyAnomalyClass) :
    Bool :=
  (evidence.oracleObservations.getD []).any fun item =>
    item.triggered && item.anomalyClass == anomalyClass

def hasProductStateDifference : Bool :=
  if !hasTriggeredAnomalyClass first .productBehaviorAnomaly &&
      !hasTriggeredAnomalyClass replay .productBehaviorAnomaly then false
  else
    match oracleKeys first, oracleKeys replay with
    | some firstKeys, some replayKeys =>
        if sameTexts rt firstKeys replayKeys then
          first.oracleStatus == .fail || replay.oracleStatus == .fail || !first.passed ||
            !replay.passed
        else true
    | _, _ => true

def hasIndependentObservationFailure (evidence : JourneyEvidence) : Bool :=
  !evidence.passed || evidence.oracleStatus == .fail || evidence.primaryFailure.isSome

def diagnosticCode (mismatch : Mismatch) : JsString :=
  "STRICT_".toList ++ mismatch.text.toList.map fun c => if c.isAlphanum then c.toUpper else '_'

def environmentChanged : Bool :=
  differ (· == ·) first.environmentInputDigest replay.environmentInputDigest

def captureFailureCodes (evidence : JourneyEvidence) : List JsString :=
  (evidence.captureFailureCodes.getD []).map (·.text.toList)

def isBenign (item : Variance) : Bool := decide (item ≠ .routeStabilityTiming)

def isTimingOnly (item : Variance) : Bool := decide (item = .routeStabilityTiming)

def one (classification : ReplayDivergenceClassification) (reason code : String) : Classified :=
  ⟨classification, reason, [code.toList]⟩

def classifyChannels (mismatches : List Mismatch) (variance : List Variance) : Classified :=
  if hasProductStateDifference rt first replay &&
      (mismatches.all (fun item => item == .oracleSet || item == .oracleOrResultStatus)) then
    one .expectedProductStateDrift
      "the differing outcome is attributed to a product-behavior oracle"
      "PRODUCT_ORACLE_STATE_CHANGED"
  else if mismatches.isEmpty && variance.isEmpty && first.passed && replay.passed then
    one .match "strict invariants and bounded observation channels match" "NO_DIFFERENCE"
  else if mismatches.isEmpty && !variance.isEmpty && variance.all isTimingOnly then
    one .timingOnlyObservationDifference
      "only the bounded route-stability timing channel differs" "TIMING_VARIANCE_ONLY"
  else if mismatches.isEmpty && !variance.isEmpty &&
      variance.all (fun item => isBenign item || isTimingOnly item) then
    one .benignTelemetryVariation
      "only bounded passive, timing, cleanup, containment, or multiplicity channels differ"
      "BENIGN_VARIANCE_ONLY"
  else if !mismatches.isEmpty then
    ⟨.deterministicReplayMismatch,
      "one or more strict replay invariants differ without a narrower safe classification",
      sortedSet (mismatches.map diagnosticCode)⟩
  else
    one .unknownDivergence
      "the run verdict is non-pass without a classified strict or bounded difference"
      "RUN_VERDICT_NOT_PASS"

def classifyReplayOutcome (mismatches : List Mismatch) (variance : List Variance) : Classified :=
  if first.authValid != replay.authValid then
    one .authDivergence "auth validity differs between observations" "AUTH_STATE_CHANGED"
  else if environmentChanged first replay then
    one .environmentDivergence "declared environment input digest differs"
      "ENVIRONMENT_INPUT_CHANGED"
  else if first.observationSettlement == some .timedOut ||
      replay.observationSettlement == some .timedOut then
    one .frameworkCaptureDefect
      "response/oracle settlement did not complete within the bounded barrier" "SETTLEMENT_TIMEOUT"
  else if first.captureStatus == some .incomplete || replay.captureStatus == some .incomplete then
    ⟨.frameworkCaptureDefect, "one observation has incomplete response capture",
      sortedSet ("CAPTURE_INCOMPLETE".toList :: captureFailureCodes first ++
        captureFailureCodes replay)⟩
  else if (first.captureStatus == some .unknown || replay.captureStatus == some .unknown) &&
      !hasIndependentObservationFailure first && !hasIndependentObservationFailure replay then
    one .frameworkCaptureDefect "response capture health was not established for one observation"
      "CAPTURE_STATUS_UNKNOWN"
  else classifyChannels rt first replay mismatches variance

end Classification

section Comparison

variable (rt : Runtime) (first replay : JourneyEvidence)

structure ReplayDifferentialEvidence where
  routeClassSame : Bool
  structuralMarkersSame : Bool
  semanticReadFamiliesSame : Bool
  semanticStrictLedgerSame : Bool
  timingDeltaMs : Option ℚ
  requestCountDelta : Option ℚ
  passiveUnknownDelta : ℚ
  oracleIdsOnlyInFirst : List JsString
  oracleIdsOnlyInReplay : List JsString
  resourceContainmentSame : Bool
  authEquivalent : Bool
  safetyEquivalent : Bool

structure ReplayComparison where
  passed : Bool
  categories : List ReplayComparisonCategory
  strictInvariantMismatches : List Mismatch
  boundedVariance : List Variance
  classification : ReplayDivergenceClassification
  classificationReason : String
  diagnosticCodes : List JsString
  differential : ReplayDifferentialEvidence

def onlyIn (first second : List JsString) : List JsString :=
  sortedSet (first.filter (· ∉ second))

def onlyInBoth : Option (List JsString) → Option (List JsString) → List JsString
  | some firstKeys, some replayKeys => onlyIn firstKeys replayKeys
  | _, _ => []

def differential : ReplayDifferentialEvidence where
  routeClassSame := first.finalRouteClass == replay.finalRouteClass
  structuralMarkersSame := sameMarkers rt first replay
  semanticReadFamiliesSame := sameTexts rt (semanticFamilies first) (semanticFamilies replay)
  semanticStrictLedgerSame :=
    !differ (sameTexts rt) (strictSemanticLedger rt first) (strictSemanticLedger rt replay)
  timingDeltaMs := delta first.routeStabilityMs replay.routeStabilityMs
  requestCountDelta := delta (requestCount first) (requestCount replay)
  passiveUnknownDelta := |first.passiveUnknownCount - replay.passiveUnknownCount|
  oracleIdsOnlyInFirst := onlyInBoth (oracleKeys first) (oracleKeys replay)
  oracleIdsOnlyInReplay := onlyInBoth (oracleKeys replay) (oracleKeys first)
  resourceContainmentSame :=
    !differ (sameTexts rt) (resourceContainmentKeys first) (resourceContainmentKeys replay)
  authEquivalent := first.authValid == replay.authValid
  safetyEquivalent := safetyEqual rt first replay

def verdictCategories (mismatches : List Mismatch) (variance : List Variance) :
    List ReplayComparisonCategory :=
  if !mismatches.isEmpty then []
  else if variance.isEmpty then [.match, .strictMatch]
  else [.boundedMatch, .expectedVariance]

/-- The categories in the order they are first added. Only the privacy channel is compared after
a bounded one, and its category comes with that of the safety channel or after the first. -/
def categories (mismatches : List Mismatch) (variance : List Variance) :
    List ReplayComparisonCategory :=
  (((mismatches.filter (· ≠ Mismatch.privacyStatus)).map Mismatch.category ++
      (variance.filter (· = Variance.resourceContainment)).map Variance.category ++
      (mismatches.filter (· = Mismatch.privacyStatus)).map Mismatch.category ++
      (variance.filter (· ≠ Variance.resourceContainment)).map Variance.category ++
      verdictCategories mismatches variance).reverse.dedup).reverse

def replayPasses (classification : ReplayDivergenceClassification) : Bool :=
  decide (classification ∈ [.match, .timingOnlyObservationDifference, .benignTelemetryVariation])

def compareJourneyReplay : ReplayComparison :=
  let mismatches := mismatches rt first replay
  let variance := variance rt first replay
  let classified := classifyReplayOutcome rt first replay mismatches variance
  { passed :=
      mismatches.isEmpty && first.passed && replay.passed && replayPasses classified.classification
    categories := categories mismatches variance
    strictInvariantMismatches := mismatches
    boundedVariance := variance
    classification := classified.classification
    classificationReason := classified.reason
    diagnosticCodes := classified.diagnosticCodes
    differential := differential rt first replay }

end Comparison

end NightWatch.Journeys.Replay
