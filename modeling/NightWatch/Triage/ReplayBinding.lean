import NightWatch.Triage.Minimizer
import NightWatch.Triage.ReplayEnvelope

namespace NightWatch.Triage.ReplayBinding

open Lib.JsText Triage.Types ReplayPlan ReplayEnvelope Minimizer

structure JourneyDefinition where
  journeyId : JsString
  allowedSteps : List JsString

/-- What the binding reads of `RIPPLE_JOURNEY_DEFINITIONS`. -/
def rippleJourneyDefinitions : List JourneyDefinition :=
  [⟨"ripple-payer-exchange-read".toList,
      ["payer-navigate".toList, "payer-structural-checkpoint".toList]⟩,
    ⟨"ripple-common-exchange-read".toList,
      ["common-navigate".toList, "common-structural-checkpoint".toList]⟩,
    ⟨"ripple-account-inventory".toList,
      ["account-navigate".toList, "account-structural-checkpoint".toList]⟩]

inductive PersistedPreferenceEffect where
  | none
  | localBrowserOnly
  | serverState
  deriving DecidableEq

inductive RouteEffect where
  | unchanged
  | approvedRoute
  deriving DecidableEq

structure CataloguedAction where
  actionId : JsString
  status : SafeActionStatus
  semanticClass : SemanticClass
  persistedPreferenceEffect : PersistedPreferenceEffect
  routeEffect : RouteEffect

def catalogued (actionId : String) (semanticClass : SemanticClass) (routeEffect : RouteEffect) :
    CataloguedAction :=
  ⟨actionId.toList, .approved, semanticClass, .none, routeEffect⟩

/-- What the binding reads of `RIPPLE_PHASE4_ACTIONS`. -/
def ripplePhase4Actions : List CataloguedAction :=
  [catalogued "p4.j1.vendor-local.aws" .localOnly .unchanged,
    catalogued "p4.j1.vendor-local.azure" .localOnly .unchanged,
    catalogued "p4.j1.vendor-local.gcp" .localOnly .unchanged,
    catalogued "p4.j1.status-local.set" .localOnly .unchanged,
    catalogued "p4.j1.status-local.not-set" .localOnly .unchanged,
    catalogued "p4.j1.return-anchor" .knownRead .approvedRoute,
    catalogued "p4.j2.vendor-read.aws" .knownRead .unchanged,
    catalogued "p4.j2.vendor-read.azure" .knownRead .unchanged,
    catalogued "p4.j2.return-anchor" .knownRead .approvedRoute,
    catalogued "p4.j3.sort-account" .localOnly .unchanged,
    catalogued "p4.j3.sort-billinggroup" .localOnly .unchanged,
    catalogued "p4.j3.return-anchor" .knownRead .approvedRoute]

inductive OperationClass where
  | knownRead
  | knownMutation
  | unknown

/-- What the binding reads of `PHASE5_API_CATALOG.operations`. -/
def phase5Operations : List (JsString × OperationClass) :=
  [("ripple.payer-exchange.read".toList, .knownRead),
    ("ripple.common-exchange.read".toList, .knownRead),
    ("ripple.account-inventory.read".toList, .knownRead),
    ("ripple.billing-groups.read".toList, .knownRead),
    ("ripple.billing-groups-legacy.read".toList, .knownRead),
    ("ripple.billing-group-exchange.read".toList, .knownRead),
    ("ripple.payer-exchange.write".toList, .knownMutation),
    ("ripple.common-exchange.write".toList, .knownMutation),
    ("ripple.account-inventory.write".toList, .knownMutation),
    ("ripple.billing-group-exchange.write".toList, .knownMutation),
    ("ripple.historical-blue-cost.unknown".toList, .unknown)]

def guardFailure (reason : GuardReason) : CandidateGuardResult := ⟨false, some reason⟩

def guardPassed : CandidateGuardResult := ⟨true, none⟩

/-- The steps must follow each other in the journey; `lastIndex` is the step before. -/
def consecutiveSteps (allowed : List JsString) : (lastIndex : Option Nat) → List JsString →
    CandidateGuardResult
  | _, [] => guardPassed
  | lastIndex, id :: rest =>
      match allowed.idxOf? id with
      | none => guardFailure .actionNotApproved
      | some index =>
          if lastIndex.any fun last => index ≠ last + 1 then guardFailure .preconditionDivergence
          else consecutiveSteps allowed (some index) rest

def journeyPreconditionCheck (plan : TriageReplayPlanV2) : CandidateGuardResult :=
  match rippleJourneyDefinitions.find? fun journey => journey.journeyId = plan.targetId with
  | none => guardFailure .actionNotApproved
  | some definition =>
      let allowed := definition.allowedSteps
      let retainedIds := plan.retainedOccurrenceOrdinals.map fun ordinal =>
        (actionOf plan.originalOccurrences ordinal).getD []
      if retainedIds.length = 1 ∧ 1 < allowed.length ∧ retainedIds.head? ≠ allowed.head? then
        guardFailure .preconditionDivergence
      else if 1 < retainedIds.length then consecutiveSteps allowed none retainedIds
      else guardPassed

def safeActionFor (id : JsString) : Option CataloguedAction :=
  ripplePhase4Actions.find? fun action => action.actionId = id

def explorationActionCheck (id : Option JsString) : CandidateGuardResult :=
  match id.bind safeActionFor with
  | none => guardFailure .actionNotApproved
  | some safe =>
      if safe.status ≠ .approved then guardFailure .actionNotApproved
      else if safe.semanticClass ≠ .knownRead ∧ safe.semanticClass ≠ .localOnly then
        guardFailure .actionNotApproved
      else if safe.persistedPreferenceEffect = .serverState then guardFailure .actionNotApproved
      else if safe.routeEffect ≠ .unchanged ∧ safe.routeEffect ≠ .approvedRoute then
        guardFailure .routeEnvelopeFailed
      else guardPassed

def explorationGuardV2 (plan : TriageReplayPlanV2) : CandidateGuardResult :=
  let results := plan.retainedOccurrenceOrdinals.map fun ordinal =>
    explorationActionCheck (actionOf plan.originalOccurrences ordinal)
  (results.find? fun result => !result.valid).getD guardPassed

def apiCatalogGuardV2 (plan : TriageReplayPlanV2) : CandidateGuardResult :=
  match plan.retainedOccurrenceOrdinals with
  | [ordinal] =>
      match plan.originalOccurrences.find? fun occurrence => occurrence.ordinal = ordinal with
      | none => guardFailure .actionNotApproved
      | some occurrence =>
          match phase5Operations.lookup occurrence.expectedActionId with
          | some .knownRead => guardPassed
          | _ => guardFailure .actionNotApproved
  | _ => guardFailure .preconditionDivergence

/-- `KIND_GUARDS`. -/
def kindGuard : ReplayKindGuardId → TriageReplayPlanV2 → CandidateGuardResult
  | .rippleJourneyPrecondition => journeyPreconditionCheck
  | .explorationSafeActionCatalog => explorationGuardV2
  | .phase5ApiKnownRead => apiCatalogGuardV2

section Binding

variable (digest : TriageReplayPlanV2 → JsString)

def validateReplayPlanV2 (plan : TriageReplayPlanV2) : Except JsString Unit := do
  validateTriageReplayPlanV2 digest plan
  let semantics := plan.candidateKind.semantics
  failIf (decide (plan.phase ∉ semantics.admittedPhases)) semantics.phaseRejectionReason
  let result := kindGuard semantics.guard plan
  failIf (!result.valid) ((result.reason.map GuardReason.text).getD semantics.invalidFallbackReason)

/-- The executor reads and changes a state of its own; `none` where it throws or rejects. -/
abbrev V2Executor (W : Type) :=
  W → TriageReplayPlanV2 → List MinimizationAction → Option CandidateReplayOutcome × W

def buildRetainedActionsV2 (plan : TriageReplayPlanV2) : List MinimizationAction :=
  plan.retainedOccurrenceOrdinals.map fun ordinal =>
    let id := (actionOf plan.originalOccurrences ordinal).getD []
    let safe :=
      if plan.candidateKind.semantics.semanticClassSource = .explorationSafeActionCatalog then
        safeActionFor id
      else none
    { actionId := id
      semanticClass := (safe.map CataloguedAction.semanticClass).getD .knownRead
      routeClass := plan.routeClass
      sourceApproved := true
      catalogVersion := plan.catalogVersion
      preconditionKey := none }

def zeroSafety : SafetyVector :=
  ⟨.ofNat 0, .ofNat 0, .ofNat 0, .ofNat 0, .ofNat 0, .ofNat 0, .ofNat 0⟩

def invalidResult (reason : GuardReason) : CandidateReplayOutcome where
  status := .invalid
  anomalyFingerprint := none
  semanticFindingFingerprint := none
  semanticContractIdentity := none
  safety := zeroSafety
  invalidReason := some reason
  executorFailure := none
  routeClass := none

def normalizeExecutorResult (result : CandidateReplayOutcome) (plan : TriageReplayPlanV2) :
    CandidateReplayOutcome :=
  let normalized := normalizeExecutorOutcome result plan.anomalyFingerprint
  if normalized.semanticFindingFingerprint.all isFingerprint &&
      normalized.semanticContractIdentity.all isContractIdentity then normalized
  else invalidResult .semanticPolicyFailed

def executeValidatedReplayPlanV2 {W : Type} (executor : V2Executor W) (state : W)
    (validated : TriageReplayPlanV2) : CandidateReplayOutcome × W :=
  let (returned, state) := executor state validated (buildRetainedActionsV2 validated)
  match returned with
  | some result => (normalizeExecutorResult result validated, state)
  | none => (invalidResult .preconditionDivergence, state)

structure RetainedOccurrenceIdentity where
  ordinal : ℤ
  actionId : JsString
  identityToken : JsString
  deriving DecidableEq

def resolveRetained (originalOccurrences : List ReplayOccurrence) :
    List ℤ → Except JsString (List RetainedOccurrenceIdentity)
  | [] => .ok []
  | ordinal :: rest => do
      match actionOf originalOccurrences ordinal with
      | none => .error ("RETAINED_OCCURRENCE_UNRESOLVED:".toList ++ decimal ordinal.toNat)
      | some id => do
          let token ← occurrenceIdentityToken id ordinal
          let identities ← resolveRetained originalOccurrences rest
          .ok ({ ordinal, actionId := id, identityToken := token } :: identities)

def resolveRetainedOccurrenceIdentities (plan : TriageReplayPlanV2) :
    Except JsString (List RetainedOccurrenceIdentity) :=
  resolveRetained plan.originalOccurrences plan.retainedOccurrenceOrdinals.mergeSort

def executeValidatedReplayPlanV2AsEnvelope {W : Type} (executor : V2Executor W) (state : W)
    (validated : TriageReplayPlanV2) : Except JsString ReplayResultEnvelope × W :=
  let (outcome, state) := executeValidatedReplayPlanV2 executor state validated
  (executedReplayResultEnvelope validated outcome 1, state)

def executeReplayPlanV2AsEnvelope {W : Type} (executor : V2Executor W) (state : W)
    (plan : TriageReplayPlanV2) : Except JsString ReplayResultEnvelope × W :=
  match validateReplayPlanV2 digest plan with
  | .error reason => (validationFailureReplayResultEnvelope plan reason, state)
  | .ok () => executeValidatedReplayPlanV2AsEnvelope executor state plan

end Binding

end NightWatch.Triage.ReplayBinding
