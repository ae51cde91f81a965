import NightWatch.Lib.JsText

namespace NightWatch.ChangeIntelligence

open Lib.JsText

inductive JourneyId
  | ripplePayerExchangeRead
  | rippleCommonExchangeRead
  | rippleAccountInventory
  deriving DecidableEq

/-- `RIPPLE_JOURNEY_IDS`. -/
def rippleJourneyIds : List JourneyId :=
  [.ripplePayerExchangeRead, .rippleCommonExchangeRead, .rippleAccountInventory]

theorem mem_rippleJourneyIds (j : JourneyId) : j ∈ rippleJourneyIds := by
  cases j <;> decide

inductive RepoScope
  | inScope
  | reviewedExcluded
  | unknown
  deriving DecidableEq

inductive ChangeStatus
  | add
  | modify
  | delete
  | rename
  deriving DecidableEq

inductive EdgeMatch
  | exact
  | pathPrefix

inductive Confidence
  | high
  | medium
  | low
  | unknown

inductive PriorityTier
  | p0
  | p1
  | p2
  | p3

inductive RiskClass
  | authPermissions
  | routing
  | dataFetch
  | costFinancialSemantics
  | exchangeRate
  | accountInventory
  | sharedUiShell
  | networkApiTransport
  | protoContract
  | errorHandling
  | resourceLoading
  | testDocOnly
  deriving DecidableEq

inductive ImpactClass
  | directJourneyChange
  | directRouteChange
  | directApiClientChange
  | directBackendHandlerChange
  | sharedAuthChange
  | sharedRouterChange
  | sharedLayoutChange
  | sharedApiTransportChange
  | sharedStateInitializationChange
  | contractChange
  | transitiveDependencyChange
  | testOnlyChange
  | docOnlyChange
  | unrelatedChange
  | unknownImpact

inductive ReasonCode
  | directComponent
  | directRoute
  | directApiCall
  | directBackendHandler
  | sharedAuth
  | sharedRouter
  | sharedLayout
  | sharedTransport
  | sharedStateInitialization
  | contractChange
  | transitiveDependency
  | unknownFallback
  | nonRuntimeOnly
  | reviewedNotDependency
  | staleEdge

structure RepoDefinition where
  repoId : JsString
  scope : RepoScope
  checkedOutSha : JsString
  sourceMapSha : JsString

structure RepoBaseline where
  repoId : JsString
  baseSha : JsString
  headSha : JsString

structure ChangedFile where
  repoId : JsString
  path : JsString
  previousPath : Option JsString
  status : ChangeStatus

structure ChangeSet where
  selectorVersion : JsString
  changesetId : JsString
  repoBaselines : List RepoBaseline
  changedFiles : List ChangedFile

/-- `journeyIds`: a list of journeys, or `'ALL'`. -/
inductive JourneyTargets
  | all
  | journeys (ids : List JourneyId)

structure DependencyEdge where
  edgeId : JsString
  repoId : JsString
  pathPattern : JsString
  edgeMatch : EdgeMatch
  journeyIds : JourneyTargets
  impactClass : ImpactClass
  reasonCode : ReasonCode
  confidence : Confidence
  riskClasses : List RiskClass
  priorityTier : PriorityTier
  sourceMapSha : JsString
  evidence : JsString

structure ImpactReason where
  reasonId : JsString
  journeyId : JourneyId
  repoId : JsString
  changedPath : JsString
  previousPath : Option JsString
  edgeId : Option JsString
  impactClass : ImpactClass
  reasonCode : ReasonCode
  confidence : Confidence
  riskClasses : List RiskClass
  priorityTier : PriorityTier
  explanation : JsString
  evidence : JsString

structure UnresolvedImpact where
  repoId : JsString
  path : JsString
  reasonCode : ReasonCode
  explanation : JsString

structure SelectedJourney where
  journeyId : JourneyId
  priorityTier : PriorityTier
  confidence : Confidence
  riskClasses : List RiskClass
  reasons : List ImpactReason

structure NonSelectedJourney where
  journeyId : JourneyId
  reason : String
  reasonCode : ReasonCode

structure SelectionResult where
  changesetId : JsString
  runtimeFileCount : Nat
  nonRuntimeFileCount : Nat
  selectedJourneys : List SelectedJourney
  nonSelectedJourneys : List NonSelectedJourney
  fallbackTriggered : Bool
  fallbackReason : Option JsString
  zeroSelectionJustified : Bool
  unresolvedImpact : List UnresolvedImpact

end NightWatch.ChangeIntelligence
