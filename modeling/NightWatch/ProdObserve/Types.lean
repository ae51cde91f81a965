import NightWatch.Lib.JsData

namespace NightWatch.ProdObserve.Types

open Lib.JsText

def productionAdmissionChainVersion : JsString :=
  "nightwatch.production-admission-chain.v1".toList

inductive ProductionAdmissionGate where
  | killSwitchEntry
  | ownerAuthorization
  | authorizationClass
  | configurationIntegrity
  | organizationWindow
  | observerIdentity
  | sourceCurrency
  | readOnlyProof
  | routeAuthority
  | hostAdmission
  | addressPolicy
  | methodAndBody
  | parameterProvenance
  | privacyCapability
  | containmentReadiness
  | budgetReservation
  | breakerState
  | killSwitchPredispatch
  deriving DecidableEq

namespace ProductionAdmissionGate

def text : ProductionAdmissionGate → JsString
  | killSwitchEntry => "G_KILL_SWITCH_ENTRY".toList
  | ownerAuthorization => "G_OWNER_AUTHORIZATION".toList
  | authorizationClass => "G_AUTHORIZATION_CLASS".toList
  | configurationIntegrity => "G_CONFIGURATION_INTEGRITY".toList
  | organizationWindow => "G_ORGANIZATION_WINDOW".toList
  | observerIdentity => "G_OBSERVER_IDENTITY".toList
  | sourceCurrency => "G_SOURCE_CURRENCY".toList
  | readOnlyProof => "G_READ_ONLY_PROOF".toList
  | routeAuthority => "G_ROUTE_AUTHORITY".toList
  | hostAdmission => "G_HOST_ADMISSION".toList
  | addressPolicy => "G_ADDRESS_POLICY".toList
  | methodAndBody => "G_METHOD_AND_BODY".toList
  | parameterProvenance => "G_PARAMETER_PROVENANCE".toList
  | privacyCapability => "G_PRIVACY_CAPABILITY".toList
  | containmentReadiness => "G_CONTAINMENT_READINESS".toList
  | budgetReservation => "G_BUDGET_RESERVATION".toList
  | breakerState => "G_BREAKER_STATE".toList
  | killSwitchPredispatch => "G_KILL_SWITCH_PREDISPATCH".toList

end ProductionAdmissionGate

def productionAdmissionGates : List ProductionAdmissionGate :=
  [.killSwitchEntry, .ownerAuthorization, .authorizationClass, .configurationIntegrity,
    .organizationWindow, .observerIdentity, .sourceCurrency, .readOnlyProof, .routeAuthority,
    .hostAdmission, .addressPolicy, .methodAndBody, .parameterProvenance, .privacyCapability,
    .containmentReadiness, .budgetReservation, .breakerState, .killSwitchPredispatch]

def factGates : List ProductionAdmissionGate :=
  [.authorizationClass, .configurationIntegrity, .organizationWindow, .observerIdentity,
    .sourceCurrency, .readOnlyProof, .routeAuthority, .hostAdmission, .addressPolicy,
    .methodAndBody, .parameterProvenance, .privacyCapability, .containmentReadiness]

inductive ProductionDenialCode where
  | killSwitchEngagedAtEntry
  | authorizationAbsent
  | authorizationExpired
  | authorizationScopeMismatch
  | alreadyConsumed
  | authorizationClassNotProdObserve
  | organizationWindowAbsent
  | organizationWindowNotYetValid
  | organizationWindowExpired
  | configurationIntegrityFailed
  | observerIdentityBelowStageMinimum
  | observerIdentityUnknown
  | sourceIncomplete
  | sourceStale
  | readOnlyProofAbsent
  | readOnlyProofStale
  | routeNotSourceProven
  | routeVocabularyUntrusted
  | hostNotAdmitted
  | resolvedAddressNotAdmitted
  | methodNotPermitted
  | bodyPresent
  | mutationClassificationPresent
  | parameterProvenanceInvalid
  | parameterConcreteValuePresent
  | privacyCapabilityAbsent
  | privacyConeNotProduction
  | containmentNotReady
  | budgetExhausted
  | breakerOpen
  | killSwitchEngagedBeforeDispatch
  | chainDefinitionInvalid
  | policyNotProvided
  deriving DecidableEq

namespace ProductionDenialCode

def text : ProductionDenialCode → JsString
  | killSwitchEngagedAtEntry => "KILL_SWITCH_ENGAGED_AT_ENTRY".toList
  | authorizationAbsent => "AUTHORIZATION_ABSENT".toList
  | authorizationExpired => "AUTHORIZATION_EXPIRED".toList
  | authorizationScopeMismatch => "AUTHORIZATION_SCOPE_MISMATCH".toList
  | alreadyConsumed => "ALREADY_CONSUMED".toList
  | authorizationClassNotProdObserve => "AUTHORIZATION_CLASS_NOT_PROD_OBSERVE".toList
  | organizationWindowAbsent => "ORGANIZATION_WINDOW_ABSENT".toList
  | organizationWindowNotYetValid => "ORGANIZATION_WINDOW_NOT_YET_VALID".toList
  | organizationWindowExpired => "ORGANIZATION_WINDOW_EXPIRED".toList
  | configurationIntegrityFailed => "CONFIGURATION_INTEGRITY_FAILED".toList
  | observerIdentityBelowStageMinimum => "OBSERVER_IDENTITY_BELOW_STAGE_MINIMUM".toList
  | observerIdentityUnknown => "OBSERVER_IDENTITY_UNKNOWN".toList
  | sourceIncomplete => "SOURCE_INCOMPLETE".toList
  | sourceStale => "SOURCE_STALE".toList
  | readOnlyProofAbsent => "READ_ONLY_PROOF_ABSENT".toList
  | readOnlyProofStale => "READ_ONLY_PROOF_STALE".toList
  | routeNotSourceProven => "ROUTE_NOT_SOURCE_PROVEN".toList
  | routeVocabularyUntrusted => "ROUTE_VOCABULARY_UNTRUSTED".toList
  | hostNotAdmitted => "HOST_NOT_ADMITTED".toList
  | resolvedAddressNotAdmitted => "RESOLVED_ADDRESS_NOT_ADMITTED".toList
  | methodNotPermitted => "METHOD_NOT_PERMITTED".toList
  | bodyPresent => "BODY_PRESENT".toList
  | mutationClassificationPresent => "MUTATION_CLASSIFICATION_PRESENT".toList
  | parameterProvenanceInvalid => "PARAMETER_PROVENANCE_INVALID".toList
  | parameterConcreteValuePresent => "PARAMETER_CONCRETE_VALUE_PRESENT".toList
  | privacyCapabilityAbsent => "PRIVACY_CAPABILITY_ABSENT".toList
  | privacyConeNotProduction => "PRIVACY_CONE_NOT_PRODUCTION".toList
  | containmentNotReady => "CONTAINMENT_NOT_READY".toList
  | budgetExhausted => "BUDGET_EXHAUSTED".toList
  | breakerOpen => "BREAKER_OPEN".toList
  | killSwitchEngagedBeforeDispatch => "KILL_SWITCH_ENGAGED_BEFORE_DISPATCH".toList
  | chainDefinitionInvalid => "CHAIN_DEFINITION_INVALID".toList
  | policyNotProvided => "POLICY_NOT_PROVIDED".toList

end ProductionDenialCode

def productionDenialCodes : List ProductionDenialCode :=
  [.killSwitchEngagedAtEntry, .authorizationAbsent, .authorizationExpired,
    .authorizationScopeMismatch, .alreadyConsumed, .authorizationClassNotProdObserve,
    .organizationWindowAbsent, .organizationWindowNotYetValid, .organizationWindowExpired,
    .configurationIntegrityFailed, .observerIdentityBelowStageMinimum, .observerIdentityUnknown,
    .sourceIncomplete, .sourceStale, .readOnlyProofAbsent, .readOnlyProofStale,
    .routeNotSourceProven, .routeVocabularyUntrusted, .hostNotAdmitted,
    .resolvedAddressNotAdmitted, .methodNotPermitted, .bodyPresent,
    .mutationClassificationPresent, .parameterProvenanceInvalid, .parameterConcreteValuePresent,
    .privacyCapabilityAbsent, .privacyConeNotProduction, .containmentNotReady, .budgetExhausted,
    .breakerOpen, .killSwitchEngagedBeforeDispatch, .chainDefinitionInvalid, .policyNotProvided]

def gateDenialCodes : ProductionAdmissionGate → List ProductionDenialCode
  | .killSwitchEntry => [.killSwitchEngagedAtEntry]
  | .ownerAuthorization =>
      [.authorizationAbsent, .authorizationExpired, .authorizationScopeMismatch, .alreadyConsumed]
  | .authorizationClass => [.authorizationClassNotProdObserve]
  | .organizationWindow =>
      [.organizationWindowAbsent, .organizationWindowNotYetValid, .organizationWindowExpired]
  | .configurationIntegrity => [.configurationIntegrityFailed]
  | .observerIdentity => [.observerIdentityBelowStageMinimum, .observerIdentityUnknown]
  | .sourceCurrency => [.sourceIncomplete, .sourceStale]
  | .readOnlyProof => [.readOnlyProofAbsent, .readOnlyProofStale]
  | .routeAuthority => [.routeNotSourceProven, .routeVocabularyUntrusted]
  | .hostAdmission => [.hostNotAdmitted]
  | .addressPolicy => [.resolvedAddressNotAdmitted]
  | .methodAndBody => [.methodNotPermitted, .bodyPresent, .mutationClassificationPresent]
  | .parameterProvenance => [.parameterProvenanceInvalid, .parameterConcreteValuePresent]
  | .privacyCapability => [.privacyCapabilityAbsent, .privacyConeNotProduction]
  | .containmentReadiness => [.containmentNotReady]
  | .budgetReservation => [.budgetExhausted]
  | .breakerState => [.breakerOpen]
  | .killSwitchPredispatch => [.killSwitchEngagedBeforeDispatch]

theorem mem_productionDenialCodes (code : ProductionDenialCode) : code ∈ productionDenialCodes := by
  cases code <;> decide

theorem mem_productionAdmissionGates (gate : ProductionAdmissionGate) :
    gate ∈ productionAdmissionGates := by
  cases gate <;> decide

inductive RequestableAuthorizationClass where
  | prodObserve
  | dev
  | next
  | authenticatedBrowser
  | replay
  | sourceIntelligence
  | realRun
  deriving DecidableEq

inductive ProductionObservationStage where
  | p0
  | pq
  | p1
  | p2
  | p3
  | p4
  deriving DecidableEq

inductive ObserverIdentityClass where
  | orgEnforcedReadOnly
  | ordinaryUser
  | unknown
  deriving DecidableEq

/-- `none` is the source's `NONE_REQUIRED`. -/
def stageObserverIdentityMinimum : ProductionObservationStage → Option ObserverIdentityClass
  | .p0 | .pq => none
  | .p1 => some .ordinaryUser
  | .p2 | .p3 | .p4 => some .orgEnforcedReadOnly

inductive ContainmentQualificationState where
  | proven
  | notExercisedBwrapUnavailable
  | notReady

inductive BreakerCategory where
  | privacyViolation
  | containmentAnomaly
  | unexpectedRedirect
  | responseSizeViolation
  | routeMismatch
  | mutationSignal
  | authorizationInvalidation
  | budgetExhaustion
  | persistenceFailure

inductive EnvironmentClass where
  | local
  | clean
  | ci
  | predev
  deriving DecidableEq

def productionReadMethods : List JsString := ["GET".toList, "HEAD".toList]

inductive GateResult where
  | pass
  | deny
  | notEvaluated
  deriving DecidableEq

def GateResult.text : GateResult → JsString
  | pass => "PASS".toList
  | deny => "DENY".toList
  | notEvaluated => "NOT_EVALUATED".toList

structure GateOutcome where
  gate : ProductionAdmissionGate
  result : GateResult
  denialCode : Option ProductionDenialCode
  deriving DecidableEq

structure AdmissionDecision where
  chainVersion : JsString
  gateDefinitionDigest : JsString
  orderedGates : List ProductionAdmissionGate
  outcomes : List GateOutcome
  allowed : Bool
  denialCode : Option ProductionDenialCode
  deniedAtGate : Option ProductionAdmissionGate
  deniedBeforeDispatch : Bool
  deriving DecidableEq

end NightWatch.ProdObserve.Types
