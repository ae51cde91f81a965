import NightWatch.Lib.JsData

namespace NightWatch.AgentProtocol.Vocabulary

open Lib.JsText

inductive AgentPhase where
  | plan
  | observe
  | analyze
  | hypothesize
  | verify
  | triage
  | replan
  deriving DecidableEq

def agentPhases : List AgentPhase :=
  [.plan, .observe, .analyze, .hypothesize, .verify, .triage, .replan]

def AgentPhase.text : AgentPhase → JsString
  | plan => "PLAN".toList
  | observe => "OBSERVE".toList
  | analyze => "ANALYZE".toList
  | hypothesize => "HYPOTHESIZE".toList
  | verify => "VERIFY".toList
  | triage => "TRIAGE".toList
  | replan => "REPLAN".toList

def nextPhase : AgentPhase → AgentPhase
  | .plan => .observe
  | .observe => .analyze
  | .analyze => .hypothesize
  | .hypothesize => .verify
  | .verify => .triage
  | .triage => .replan
  | .replan => .plan

inductive AgentRuntimeStatus where
  | ready
  | running
  | paused
  | checkpointing
  | terminated
  deriving DecidableEq

def agentRuntimeStatuses : List AgentRuntimeStatus :=
  [.ready, .running, .paused, .checkpointing, .terminated]

def AgentRuntimeStatus.text : AgentRuntimeStatus → JsString
  | ready => "READY".toList
  | running => "RUNNING".toList
  | paused => "PAUSED".toList
  | checkpointing => "CHECKPOINTING".toList
  | terminated => "TERMINATED".toList

inductive AgentTerminationReason where
  | completeWithFinding
  | completeNoFinding
  | budgetExhausted
  | cancelled
  | paused
  | safetyBlocked
  | noProgress
  | reasonerFailure
  deriving DecidableEq

def agentTerminationReasons : List AgentTerminationReason :=
  [.completeWithFinding, .completeNoFinding, .budgetExhausted, .cancelled, .paused, .safetyBlocked,
    .noProgress, .reasonerFailure]

def AgentTerminationReason.text : AgentTerminationReason → JsString
  | completeWithFinding => "COMPLETE_WITH_FINDING".toList
  | completeNoFinding => "COMPLETE_NO_FINDING".toList
  | budgetExhausted => "BUDGET_EXHAUSTED".toList
  | cancelled => "CANCELLED".toList
  | paused => "PAUSED".toList
  | safetyBlocked => "SAFETY_BLOCKED".toList
  | noProgress => "NO_PROGRESS".toList
  | reasonerFailure => "REASONER_FAILURE".toList

inductive AgentToolEnvironment where
  | localOnly
  | dev
  | next
  deriving DecidableEq

def allowedOperations : List JsString :=
  ["LOCAL_SOURCE_INTELLIGENCE".toList, "READ_ONLY_GIT_SNAPSHOT".toList,
    "CONTAINED_DEV_BROWSER".toList, "CONTAINED_DEV_API".toList, "DETERMINISTIC_REPLAY".toList,
    "SYNTHETIC_FIXTURE".toList, "PRIVATE_EVIDENCE".toList, "PRIVATE_TRIAGE".toList,
    "AI_REVIEW_LOCAL".toList, "AI_ORACLE_SUGGESTION_LOCAL".toList,
    "SELF_DEVELOPMENT_SYNTHETIC_EVALUATION".toList, "SELF_DEVELOPMENT_SANDBOX_ADOPTION".toList,
    "SELF_DEVELOPMENT_CANONICAL_ADOPTION".toList, "AUTONOMOUS_AGENT_LOCAL".toList]

/-- `replace(/[\s-]+/g, '_')`; the flag says that a run has begun. -/
def underscoreRuns : Bool → JsString → JsString
  | _, [] => []
  | inRun, c :: rest =>
      if isSpace c || c == '-' then
        if inRun then underscoreRuns true rest else '_' :: underscoreRuns true rest
      else c :: underscoreRuns false rest

def canonicalOperation (operation : JsString) : JsString :=
  underscoreRuns false ((trim operation).map Char.toUpper)

def decideOwnerScope (operation : JsString) : Bool :=
  allowedOperations.contains (canonicalOperation operation)

inductive AgentToolId where
  | inspectSourceSurface
  | querySystemMap
  | queryBugAtlas
  | querySystemAtlas
  | retrieveSanitizedEvidence
  | requestRouteContractProof
  | requestBrowserObservation
  | requestApiObservation
  | compareObservations
  | rerunSafeReproduction
  | askDeterministicOracle
  | requestFindingProposal
  | requestRelatedHistoricalBugs
  deriving DecidableEq

def agentToolIds : List AgentToolId :=
  [.inspectSourceSurface, .querySystemMap, .queryBugAtlas, .querySystemAtlas,
    .retrieveSanitizedEvidence, .requestRouteContractProof, .requestBrowserObservation,
    .requestApiObservation, .compareObservations, .rerunSafeReproduction, .askDeterministicOracle,
    .requestFindingProposal, .requestRelatedHistoricalBugs]

def AgentToolId.text : AgentToolId → JsString
  | inspectSourceSurface => "INSPECT_SOURCE_SURFACE".toList
  | querySystemMap => "QUERY_SYSTEM_MAP".toList
  | queryBugAtlas => "QUERY_BUG_ATLAS".toList
  | querySystemAtlas => "QUERY_SYSTEM_ATLAS".toList
  | retrieveSanitizedEvidence => "RETRIEVE_SANITIZED_EVIDENCE".toList
  | requestRouteContractProof => "REQUEST_ROUTE_CONTRACT_PROOF".toList
  | requestBrowserObservation => "REQUEST_BROWSER_OBSERVATION".toList
  | requestApiObservation => "REQUEST_API_OBSERVATION".toList
  | compareObservations => "COMPARE_OBSERVATIONS".toList
  | rerunSafeReproduction => "RERUN_SAFE_REPRODUCTION".toList
  | askDeterministicOracle => "ASK_DETERMINISTIC_ORACLE".toList
  | requestFindingProposal => "REQUEST_FINDING_PROPOSAL".toList
  | requestRelatedHistoricalBugs => "REQUEST_RELATED_HISTORICAL_BUGS".toList

def AgentToolId.environment : AgentToolId → AgentToolEnvironment
  | requestBrowserObservation => .dev
  | requestApiObservation => .dev
  | _ => .localOnly

def AgentToolId.authorizationClass : AgentToolId → JsString
  | inspectSourceSurface => "LOCAL_SOURCE_INTELLIGENCE".toList
  | querySystemMap => "LOCAL_SOURCE_INTELLIGENCE".toList
  | queryBugAtlas => "LOCAL_SOURCE_INTELLIGENCE".toList
  | querySystemAtlas => "LOCAL_SOURCE_INTELLIGENCE".toList
  | retrieveSanitizedEvidence => "PRIVATE_EVIDENCE".toList
  | requestRouteContractProof => "LOCAL_SOURCE_INTELLIGENCE".toList
  | requestBrowserObservation => "CONTAINED_DEV_BROWSER".toList
  | requestApiObservation => "CONTAINED_DEV_API".toList
  | compareObservations => "PRIVATE_TRIAGE".toList
  | rerunSafeReproduction => "DETERMINISTIC_REPLAY".toList
  | askDeterministicOracle => "SYNTHETIC_FIXTURE".toList
  | requestFindingProposal => "PRIVATE_TRIAGE".toList
  | requestRelatedHistoricalBugs => "LOCAL_SOURCE_INTELLIGENCE".toList

def lookupAgentTool (toolId : JsString) : Option AgentToolId :=
  agentToolIds.find? fun tool => tool.text == toolId

inductive ReasonerFailureClass where
  | malformedOutput
  | garbageOutput
  | oversizeOutput
  | partialOutput
  | timeout
  | cliCrash
  | nonzeroExit
  | hungChild
  | hungGrandchild
  | secretEcho
  | unknownIntent
  | unsafeIntent
  | unknownTool
  | unauthorizedEnvironment
  | providerFailure
  | cancelled
  deriving DecidableEq

def ReasonerFailureClass.text : ReasonerFailureClass → JsString
  | malformedOutput => "MALFORMED_OUTPUT".toList
  | garbageOutput => "GARBAGE_OUTPUT".toList
  | oversizeOutput => "OVERSIZE_OUTPUT".toList
  | partialOutput => "PARTIAL_OUTPUT".toList
  | timeout => "TIMEOUT".toList
  | cliCrash => "CLI_CRASH".toList
  | nonzeroExit => "NONZERO_EXIT".toList
  | hungChild => "HUNG_CHILD".toList
  | hungGrandchild => "HUNG_GRANDCHILD".toList
  | secretEcho => "SECRET_ECHO".toList
  | unknownIntent => "UNKNOWN_INTENT".toList
  | unsafeIntent => "UNSAFE_INTENT".toList
  | unknownTool => "UNKNOWN_TOOL".toList
  | unauthorizedEnvironment => "UNAUTHORIZED_ENVIRONMENT".toList
  | providerFailure => "PROVIDER_FAILURE".toList
  | cancelled => "CANCELLED".toList

inductive ProviderFailureNature where
  | transient
  | permanent
  | operator
  deriving DecidableEq

/-- A permanent class cannot be repaired by trying again; `CANCELLED` is an operator's doing. -/
def providerFailureNature : ReasonerFailureClass → ProviderFailureNature
  | .malformedOutput => .permanent
  | .garbageOutput => .permanent
  | .secretEcho => .permanent
  | .unknownIntent => .permanent
  | .unsafeIntent => .permanent
  | .unknownTool => .permanent
  | .unauthorizedEnvironment => .permanent
  | .cancelled => .operator
  | _ => .transient

def safetyRejectionClasses : List ReasonerFailureClass :=
  [.unsafeIntent, .unknownIntent, .unknownTool, .unauthorizedEnvironment, .secretEcho]

inductive ActionFailureDisposition where
  | deterministicTerminal
  | environmentBlocked
  | transientRetryable
  deriving DecidableEq

def actionFailureDispositions : List ActionFailureDisposition :=
  [.deterministicTerminal, .environmentBlocked, .transientRetryable]

def ActionFailureDisposition.text : ActionFailureDisposition → JsString
  | deterministicTerminal => "DETERMINISTIC_TERMINAL".toList
  | environmentBlocked => "ENVIRONMENT_BLOCKED".toList
  | transientRetryable => "TRANSIENT_RETRYABLE".toList

inductive SurfaceReadinessClass where
  | executableNow
  | notExecutable
  | unknown
  deriving DecidableEq

def surfaceReadinessClasses : List SurfaceReadinessClass :=
  [.executableNow, .notExecutable, .unknown]

def SurfaceReadinessClass.text : SurfaceReadinessClass → JsString
  | executableNow => "EXECUTABLE_NOW".toList
  | notExecutable => "NOT_EXECUTABLE".toList
  | unknown => "UNKNOWN".toList

inductive SurfaceRefusalClass where
  | pathMalformed
  | pathNotApproved
  | noSupportedExecutor
  | moduleRootNotFound
  | vendorDirectoryAbsent
  | packageTestFilesAbsent
  | sourceNotCurrent
  | environmentBlocked
  deriving DecidableEq

def surfaceRefusalClasses : List SurfaceRefusalClass :=
  [.pathMalformed, .pathNotApproved, .noSupportedExecutor, .moduleRootNotFound,
    .vendorDirectoryAbsent, .packageTestFilesAbsent, .sourceNotCurrent, .environmentBlocked]

def SurfaceRefusalClass.text : SurfaceRefusalClass → JsString
  | pathMalformed => "PATH_MALFORMED".toList
  | pathNotApproved => "PATH_NOT_APPROVED".toList
  | noSupportedExecutor => "NO_SUPPORTED_EXECUTOR".toList
  | moduleRootNotFound => "MODULE_ROOT_NOT_FOUND".toList
  | vendorDirectoryAbsent => "VENDOR_DIRECTORY_ABSENT".toList
  | packageTestFilesAbsent => "PACKAGE_TEST_FILES_ABSENT".toList
  | sourceNotCurrent => "SOURCE_NOT_CURRENT".toList
  | environmentBlocked => "ENVIRONMENT_BLOCKED".toList

inductive OwnerLocalExecutorKind where
  | goVendoredPackageTest

def ownerLocalExecutorKinds : List OwnerLocalExecutorKind := [.goVendoredPackageTest]

def OwnerLocalExecutorKind.text : OwnerLocalExecutorKind → JsString
  | goVendoredPackageTest => "GO_VENDORED_PACKAGE_TEST".toList

section Reading

def memberNamed {α : Type} (members : List α) (name : α → JsString) (text : JsString) : Option α :=
  members.find? fun member => name member == text

variable {α : Type} {members : List α} {name : α → JsString}

theorem memberNamed_name (hinj : ∀ a ∈ members, ∀ b ∈ members, name a = name b → a = b) {a : α}
    (ha : a ∈ members) : memberNamed members name (name a) = some a := by
  rw [memberNamed]
  rcases hfind : members.find? fun member => name member == name a with _ | b
  · have hself := List.find?_eq_none.mp hfind a ha
    simp at hself
  · have hb := List.mem_of_find?_eq_some hfind
    have hname := List.find?_some hfind
    rw [hinj b hb a ha (by simpa using hname)]

end Reading

end NightWatch.AgentProtocol.Vocabulary
