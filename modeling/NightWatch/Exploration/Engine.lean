import NightWatch.Exploration.Planner
import NightWatch.Lib.StepFunction

namespace NightWatch.Exploration.Engine

open Lib.JsText Lib.JsData Lib.Machine Lib.StepFunction Exploration.States Exploration.Planner

structure SafetyVector where
  productionAttempts : JsNumber
  proxyViolations : JsNumber
  unknownDestinations : JsNumber
  unknownApprovals : JsNumber
  knownMutations : JsNumber
  actionCausedUnknown : JsNumber
  dbQueries : JsNumber

def zeroSafety : SafetyVector :=
  ⟨.ofNat 0, .ofNat 0, .ofNat 0, .ofNat 0, .ofNat 0, .ofNat 0, .ofNat 0⟩

def addSafety (a b : SafetyVector) : SafetyVector where
  productionAttempts := a.productionAttempts.add b.productionAttempts
  proxyViolations := a.proxyViolations.add b.proxyViolations
  unknownDestinations := a.unknownDestinations.add b.unknownDestinations
  unknownApprovals := a.unknownApprovals.add b.unknownApprovals
  knownMutations := a.knownMutations.add b.knownMutations
  actionCausedUnknown := a.actionCausedUnknown.add b.actionCausedUnknown
  dbQueries := a.dbQueries.add b.dbQueries

inductive RequestClassification where
  | knownRead
  | knownMutation
  | unknown
  deriving DecidableEq

inductive RequestDisposition where
  | knownRead
  | knownMutation
  | passiveUnknownObserved
  | actionCausedUnknown
  deriving DecidableEq

inductive HostClass where
  | target
  | optionalBlocked
  | browserBackground
  | unknown
  | production
  deriving DecidableEq

structure RuntimeNetworkObservation where
  family : JsString
  classification : RequestClassification
  disposition : RequestDisposition
  hostClass : HostClass

inductive ExecutionStatus where
  | completed
  | failed
  | actionNotAvailableAtRuntime
  deriving DecidableEq

inductive DurationClass where
  | short
  | medium
  | long
  | unknown

structure ActionExecutionResult where
  status : ExecutionStatus
  nextState : ExplorationStateInput
  routeDelta : SafeScalarMap
  structuralDelta : SafeScalarMap
  semanticRequestDelta : List RuntimeNetworkObservation
  oracleResults : List JsString
  safety : SafetyVector
  durationClass : DurationClass
  failureCode : Option JsString

def addSafetyIf (condition : Bool) (safety more : SafetyVector) : SafetyVector :=
  if condition then addSafety safety more else safety

def addRequest (safety : SafetyVector) (request : RuntimeNetworkObservation) : SafetyVector :=
  let safety := addSafetyIf
    (request.disposition = .knownMutation || request.classification = .knownMutation) safety
    { zeroSafety with knownMutations := .ofNat 1 }
  let safety := addSafetyIf (request.disposition = .actionCausedUnknown) safety
    { zeroSafety with actionCausedUnknown := .ofNat 1 }
  let safety := addSafetyIf (request.hostClass = .production) safety
    { zeroSafety with productionAttempts := .ofNat 1 }
  addSafetyIf (request.hostClass = .unknown) safety
    { zeroSafety with unknownDestinations := .ofNat 1 }

def safetyFromResult (result : ActionExecutionResult) : SafetyVector :=
  result.semanticRequestDelta.foldl addRequest result.safety

inductive TerminationReason where
  | budgetExhausted
  | safeFrontierExhausted
  | modelTerminalState
  | authInvalid
  | safetyBlock
  | actionCausedUnknown
  | knownMutationDetected
  | newHostBlocked
  | unexpectedRouteEscape
  | fatalOracle
  | runtimeFailure
  deriving DecidableEq

def isPositive (n : JsNumber) : Bool := (JsNumber.ofNat 0).lt n

def terminationForSafety (safety : SafetyVector) (semanticUnknown routeEscape : Bool) :
    Option TerminationReason :=
  if isPositive safety.productionAttempts || isPositive safety.proxyViolations ||
      isPositive safety.unknownApprovals || isPositive safety.dbQueries then
    some .safetyBlock
  else if isPositive safety.knownMutations then some .knownMutationDetected
  else if isPositive safety.unknownDestinations then some .newHostBlocked
  else if semanticUnknown || isPositive safety.actionCausedUnknown then some .actionCausedUnknown
  else if routeEscape then some .unexpectedRouteEscape
  else none

def isFatalOracle (oracles : List JsString) : Bool :=
  oracles.any fun oracle => startsWith oracle "FATAL:".toList

def knownReadFamilies (result : ActionExecutionResult) : List JsString :=
  (result.semanticRequestDelta.filter (·.classification = .knownRead)).map (·.family)

def actionOutcomeMismatch (action : SafeAction) (result : ActionExecutionResult) :
    Option JsString :=
  if result.status ≠ .completed then none
  else
    match action.expectedStructuralDelta.find? (fun entry => !holdsAt result.structuralDelta entry),
      action.expectedReadFamilies.find? (fun family => family ∉ knownReadFamilies result) with
    | some entry, _ => some ("expected structural delta missing: ".toList ++ entry.1)
    | none, some family => some ("expected read family missing: ".toList ++ family)
    | none, none => none

inductive Verification where
  | runtimeObserved
  | blocked
  | invalidated

structure ExplorationTransition where
  fromStateId : JsString
  actionId : JsString
  seedDecisionIndex : Nat
  toStateId : JsString
  actionOutcome : ExecutionStatus
  routeDelta : SafeScalarMap
  structuralDelta : SafeScalarMap
  semanticRequestDelta : List RuntimeNetworkObservation
  oracleResults : List JsString
  safetyResult : SafetyVector
  durationClass : DurationClass
  verification : Verification

section Exploration

inductive Status where
  | running
  | returned (reason : TerminationReason)
  | rejected
  deriving DecidableEq

structure ExplorationRun where
  planner : SeededFrontierPlanner
  started : JsNumber
  state : ExplorationState
  states : List (JsString × ExplorationState)
  transitions : List ExplorationTransition
  decisions : List PlannerDecision
  plannedActions : List JsString
  observedActions : List JsString
  safety : SafetyVector
  unavailable : Nat
  transitionsAttempted : Nat
  transitionsCompleted : Nat
  status : Status

variable (stateHash : ExplorationStateInput → JsString) (catalog : List SafeAction)
  (envelope : ExplorationEnvelope) (budget : ExplorationBudget)
  (localeLe : JsString → JsString → Bool)

def hasTerminalState (state : ExplorationState) : Bool := state.identity.terminalFlags.any Prod.snd

def availableActionIds (actionAvailable : SafeAction → Bool) : List JsString :=
  let candidates := catalog.filter fun action =>
    action.actionId ∈ envelope.allowedActionIds && action.status = .approved
  (candidates.filter actionAvailable).map SafeAction.actionId

def observeState (currentState : ExplorationStateInput) (actionAvailable : SafeAction → Bool) :
    Except String ExplorationState :=
  createExplorationState stateHash
    { currentState with
      availableActionIds := sortedSet (availableActionIds catalog envelope actionAvailable) }

def openingStatus (state : ExplorationState) : Status :=
  if state.identity.authStateClass ≠ .authenticatedDev then .returned .authInvalid
  else if state.identity.routeClass ∉ envelope.allowedRoutes then .returned .unexpectedRouteEscape
  else if hasTerminalState state then .returned .modelTerminalState
  else .running

structure Opening where
  seed : JsString
  started : JsNumber
  currentState : ExplorationStateInput
  actionAvailable : SafeAction → Bool

def beginExploration (opening : Opening) : Except String ExplorationRun := do
  let planner ← SeededFrontierPlanner.ofSeed opening.seed
  let state ← observeState stateHash catalog envelope opening.currentState opening.actionAvailable
  return {
    planner := planner
    started := opening.started
    state := state
    states := [(state.stateId, state)]
    transitions := []
    decisions := []
    plannedActions := []
    observedActions := []
    safety := zeroSafety
    unavailable := 0
    transitionsAttempted := 0
    transitionsCompleted := 0
    status := openingStatus envelope state }

/-- `now() - started >= Math.min(budget.maxRuntimeMs, 120_000)`. -/
def isExpired (run : ExplorationRun) (now : JsNumber) : Bool :=
  (now.sub run.started).ge (jsMin budget.maxRuntimeMs (.ofNat 120000))

def reachesLimit (run : ExplorationRun) : Bool :=
  (JsNumber.ofNat run.plannedActions.length).ge
      (jsMin budget.maxActionsPerSequence envelope.maxActionsPerSequence) ||
    (JsNumber.ofNat run.plannedActions.length).ge (jsMin budget.maxDepth envelope.maxDepth) ||
    (JsNumber.ofNat run.states.length).ge budget.maxStates ||
    (JsNumber.ofNat run.transitionsAttempted).ge
      (jsMin budget.maxTransitions envelope.maxTransitions)

def ExplorationRun.addState (run : ExplorationRun) (next : ExplorationState) : ExplorationRun :=
  { run with states := mapSet next.stateId next run.states }

def ExplorationRun.record (run : ExplorationRun) (action : SafeAction) (index : Nat)
    (result : ActionExecutionResult) (next : ExplorationState) (outcome : ExecutionStatus)
    (oracles : List JsString) (verification : Verification) : ExplorationRun :=
  { run with
    transitions := run.transitions ++ [{
      fromStateId := run.state.stateId
      actionId := action.actionId
      seedDecisionIndex := index
      toStateId := next.stateId
      actionOutcome := outcome
      routeDelta := result.routeDelta
      structuralDelta := result.structuralDelta
      semanticRequestDelta := result.semanticRequestDelta
      oracleResults := oracles
      safetyResult := safetyFromResult result
      durationClass := result.durationClass
      verification := verification }] }

def isActionFailure (action : SafeAction) (result : ActionExecutionResult) : Bool :=
  result.status = .failed || (actionOutcomeMismatch action result).isSome

def actionOracleResults (action : SafeAction) (result : ActionExecutionResult) : List JsString :=
  if isActionFailure action result then
    result.oracleResults ++
      (result.failureCode.map fun code => "ACTION_FAILURE:".toList ++ code).toList ++
      (if "ACTION_TRANSITION_FAILED".toList ∈ result.oracleResults then []
        else ["ACTION_TRANSITION_FAILED".toList])
  else result.oracleResults

def stopReason (action : SafeAction) (result : ActionExecutionResult) : Option TerminationReason :=
  let semanticUnknown :=
    result.semanticRequestDelta.any (·.disposition = .actionCausedUnknown)
  let routeEscape := result.nextState.routeClass ∉ envelope.allowedRoutes ||
    result.nextState.routeClass ≠ action.expectedRouteClass
  match terminationForSafety (safetyFromResult result) semanticUnknown routeEscape with
  | some reason => some reason
  | none =>
      if isFatalOracle result.oracleResults then some .fatalOracle
      else if isActionFailure action result then some .runtimeFailure
      else none

def settle (run : ExplorationRun) (action : SafeAction) (index : Nat)
    (result : ActionExecutionResult) : Except String ExplorationRun := do
  let next ← createExplorationState stateHash result.nextState
  if result.status = .actionNotAvailableAtRuntime then
    return { (run.addState next).record action index result next result.status
        ["ACTION_NOT_AVAILABLE_AT_RUNTIME".toList] .blocked with
      unavailable := run.unavailable + 1
      status := .returned .runtimeFailure }
  let safety := addSafety run.safety (safetyFromResult result)
  match stopReason envelope action result with
  | some reason =>
      return { (run.addState next).record action index result next
          (if isActionFailure action result then .failed else result.status)
          (actionOracleResults action result) .invalidated with
        safety := safety
        status := .returned reason }
  | none =>
      return { (run.addState next).record action index result next result.status
          result.oracleResults .runtimeObserved with
        state := next
        safety := safety
        transitionsCompleted := run.transitionsCompleted + 1
        status := if hasTerminalState next then .returned .modelTerminalState else .running }

def ExplorationRun.call (run : ExplorationRun) (selected : PlannerSelection) (action : SafeAction) :
    ExplorationRun :=
  { run with
    planner := selected.planner.noteAttempt run.state.stateId action.actionId
    plannedActions := run.plannedActions ++ [action.actionId]
    transitionsAttempted := run.transitionsAttempted + 1 }

def ExplorationRun.afterCall (run : ExplorationRun) (action : SafeAction) (index : Nat) :
    Option ActionExecutionResult → ExplorationRun
  | none => { run with status := .rejected }
  | some result =>
      let observed := { run with observedActions := run.observedActions ++ [action.actionId] }
      match settle stateHash envelope observed action index result with
      | .ok settled => settled
      | .error _ => { observed with status := .rejected }

structure Turn where
  now : JsNumber
  call : Option (ExplorationState × SafeAction)
  outcome : Option ActionExecutionResult

def selection (run : ExplorationRun) : PlannerSelection :=
  select catalog envelope budget localeLe (run.planner.noteState run.state.stateId) run.state
    run.plannedActions.length

def takeTurn (run : ExplorationRun) (now : JsNumber) (outcome : Option ActionExecutionResult) :
    Option (ExplorationState × SafeAction) × ExplorationRun :=
  if isExpired budget run now || reachesLimit envelope budget run then
    (none, { run with status := .returned .budgetExhausted })
  else
    let selected := selection catalog envelope budget localeLe run
    let decided := { run with
      planner := selected.planner
      decisions := run.decisions ++ [selected.decision] }
    match selected.action with
    | none => (none, { decided with status := .returned .safeFrontierExhausted })
    | some action =>
        (some (run.state, action),
          (decided.call selected action).afterCall stateHash envelope action selected.decision.index
            outcome)

def next (run : ExplorationRun) (turn : Turn) : Option ExplorationRun :=
  let taken := takeTurn stateHash catalog envelope budget localeLe run turn.now turn.outcome
  if run.status = .running ∧ turn.call = taken.1 then some taken.2 else none

/-- `runExploration` from its first state on. -/
def runExploration (first : ExplorationRun) : System ExplorationRun Turn :=
  ofFunction first (next stateHash catalog envelope budget localeLe)

def executions (history : List Turn) : List (ExplorationState × SafeAction) :=
  history.filterMap Turn.call

end Exploration

end NightWatch.Exploration.Engine
