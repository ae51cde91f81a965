import NightWatch.Lib.JsData

namespace NightWatch.Triage.Types

open Lib.JsText Lib.JsData

def failureMinimizationVersion : JsString := "nightwatch.failure-minimization.private.v1".toList

inductive SemanticClass where
  | knownRead
  | localOnly
  deriving DecidableEq

structure MinimizationAction where
  actionId : JsString
  semanticClass : SemanticClass
  routeClass : JsString
  sourceApproved : Bool
  catalogVersion : JsString
  preconditionKey : Option JsString
  deriving DecidableEq

inductive SafeActionStatus where
  | approved
  | stale
  | reviewRequired
  deriving DecidableEq

structure SafeAction where
  actionId : JsString
  status : SafeActionStatus

structure MinimizationBudget where
  policyVersion : JsString
  maxCandidateEvaluations : JsNumber
  maxTotalReplays : JsNumber
  deriving DecidableEq

def realDevMinimizationBudget : MinimizationBudget where
  policyVersion := "nightwatch.minimization-budget.private.v1".toList
  maxCandidateEvaluations := .ofNat 4
  maxTotalReplays := .ofNat 5

structure MinimizationSafetyContract where
  devOnly : Bool
  authValid : Bool
  outboundPolicySatisfied : Bool
  safeActionCatalogSatisfied : Bool
  semanticReadOnly : Bool
  mutationTripwireZero : Bool
  unknownTripwireZero : Bool
  routeEnvelopeSatisfied : Bool
  privacySatisfied : Bool

def passiveMinimizationSafety : MinimizationSafetyContract where
  devOnly := true
  authValid := true
  outboundPolicySatisfied := true
  safeActionCatalogSatisfied := true
  semanticReadOnly := true
  mutationTripwireZero := true
  unknownTripwireZero := true
  routeEnvelopeSatisfied := true
  privacySatisfied := true

inductive GuardReason where
  | actionNotInOriginal
  | actionNotApproved
  | preconditionDivergence
  | devGateFailed
  | authGateFailed
  | outboundPolicyFailed
  | semanticPolicyFailed
  | mutationTripwire
  | unknownTripwire
  | routeEnvelopeFailed
  | privacyPolicyFailed
  | safetyVectorNonzero
  deriving DecidableEq

def GuardReason.text : GuardReason → JsString
  | .actionNotInOriginal => "ACTION_NOT_IN_ORIGINAL".toList
  | .actionNotApproved => "ACTION_NOT_APPROVED".toList
  | .preconditionDivergence => "PRECONDITION_DIVERGENCE".toList
  | .devGateFailed => "DEV_GATE_FAILED".toList
  | .authGateFailed => "AUTH_GATE_FAILED".toList
  | .outboundPolicyFailed => "OUTBOUND_POLICY_FAILED".toList
  | .semanticPolicyFailed => "SEMANTIC_POLICY_FAILED".toList
  | .mutationTripwire => "MUTATION_TRIPWIRE".toList
  | .unknownTripwire => "UNKNOWN_TRIPWIRE".toList
  | .routeEnvelopeFailed => "ROUTE_ENVELOPE_FAILED".toList
  | .privacyPolicyFailed => "PRIVACY_POLICY_FAILED".toList
  | .safetyVectorNonzero => "SAFETY_VECTOR_NONZERO".toList

structure CandidateGuardResult where
  valid : Bool
  reason : Option GuardReason

structure SafetyVector where
  productionAttempts : JsNumber
  proxyViolations : JsNumber
  unknownDestinations : JsNumber
  unknownApprovals : JsNumber
  knownMutations : JsNumber
  actionCausedUnknown : JsNumber
  dbQueries : JsNumber
  deriving DecidableEq

inductive ReplayStatus where
  | failure
  | pass
  | invalid
  deriving DecidableEq

inductive ExecutorFailure where
  | executorThrow
  | executorNondeterministic
  deriving DecidableEq

def ExecutorFailure.text : ExecutorFailure → JsString
  | .executorThrow => "EXECUTOR_THROW".toList
  | .executorNondeterministic => "EXECUTOR_NONDETERMINISTIC".toList

structure CandidateReplayOutcome where
  status : ReplayStatus
  anomalyFingerprint : Option JsString
  semanticFindingFingerprint : Option JsString
  semanticContractIdentity : Option JsString
  safety : SafetyVector
  invalidReason : Option GuardReason
  executorFailure : Option ExecutorFailure
  routeClass : Option JsString
  deriving DecidableEq

inductive ReplayPhase where
  | freshExactReplay
  | reducedCandidate
  deriving DecidableEq

/-- The guard and the replay callback may read and change a state of their own, and may throw: the
guard a message, the callback an error nobody looks at. -/
structure MinimizationOptions (W : Type) where
  originalSequence : List MinimizationAction
  anomalyFingerprint : JsString
  sourceVersion : JsString
  catalogVersion : JsString
  approvedActionIds : Option (List JsString)
  safeActionCatalog : Option (List SafeAction)
  safety : Option MinimizationSafetyContract
  budget : Option MinimizationBudget
  preconditionCheck :
    Option (W → List MinimizationAction → Except JsString CandidateGuardResult × W)
  replay : W → List MinimizationAction → ReplayPhase → Option CandidateReplayOutcome × W

inductive EvaluationDisposition where
  | reproduces
  | doesNotReproduce
  | invalid
  | notEvaluatedBudget
  deriving DecidableEq

structure CandidateEvaluation where
  sequence : List JsString
  occurrenceOrdinals : List Nat
  semanticFindingFingerprint : Option JsString
  semanticContractIdentity : Option JsString
  disposition : EvaluationDisposition
  reason : JsString
  fingerprintMatch : Bool

inductive ReductionEvidenceClass where
  | minimalityProven
  | minimalityNotProven
  | noReducibleCandidate
  | reductionPreconditionUnavailable
  deriving DecidableEq

def ReductionEvidenceClass.text : ReductionEvidenceClass → JsString
  | .minimalityProven => "MINIMALITY_PROVEN".toList
  | .minimalityNotProven => "MINIMALITY_NOT_PROVEN".toList
  | .noReducibleCandidate => "NO_REDUCIBLE_CANDIDATE".toList
  | .reductionPreconditionUnavailable => "REDUCTION_PRECONDITION_UNAVAILABLE".toList

inductive TriageConfidence where
  | high
  | medium
  | low
  | unresolved

inductive MinimizationStatus where
  | minimized
  | unchanged
  | noReproduction
  | boundedBudgetExhausted
  | invalidOriginal
  deriving DecidableEq

inductive MinimalityGuarantee where
  | oneMinimal
  | boundedMinimal
  | none
  deriving DecidableEq

inductive FreshExactReplay where
  | reproduced
  | notReproduced
  | invalid
  deriving DecidableEq

structure MinimizationResult where
  schemaVersion : JsString
  status : MinimizationStatus
  originalSequence : List JsString
  minimalReproducingSequence : List JsString
  minimalReproducingOccurrenceOrdinals : Option (List Nat)
  removedActions : List JsString
  reproductionCount : Nat
  anomalyFingerprint : JsString
  modelVersion : JsString
  catalogVersion : JsString
  sourceVersion : JsString
  confidence : TriageConfidence
  minimalityGuarantee : MinimalityGuarantee
  reductionEvidenceClass : ReductionEvidenceClass
  budget : MinimizationBudget
  replayCount : Nat
  candidateEvaluationCount : Nat
  candidateEvaluations : List CandidateEvaluation
  invalidCandidateCount : Nat
  safetyRejectionCount : Nat
  freshExactReplay : FreshExactReplay

end NightWatch.Triage.Types
