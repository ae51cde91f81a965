import NightWatch.WorkingMemory.Ledger

namespace NightWatch.WorkingMemory.Derive

open Lib.JsText AgentProtocol.Vocabulary AgentProtocol.Actions AgentRuntime.ToolResults
  AgentRuntime.State WorkingMemory.Ledger

def hypothesesCap : Nat := 8

def inspectedTargetsCap : Nat := 24

def uninspectedTargetsCap : Nat := 16

def exhaustedTargetsCap : Nat := 12

def recentActionsCap : Nat := 8

def reproductionsCap : Nat := 6

def directivesCap : Nat := 4

def candidateIdsCap : Nat := 8

def statementChars : Nat := 200

def surfaceEntriesCap : Nat := 32

def targetCapabilitiesCap : Nat := 40

def directiveChars : Nat := 160

def stagnationElevatedTurns : Nat := 2

def stagnationCriticalTurns : Nat := 4

inductive HypothesisProgress where
  | ungrounded
  | grounded
  | verificationReady
  | reproduced
  | disproved
  deriving DecidableEq

def progressRank : HypothesisProgress → Nat
  | .reproduced => 0
  | .verificationReady => 1
  | .grounded => 2
  | .ungrounded => 3
  | .disproved => 4

inductive ReproductionReadiness where
  | notReadyNoInspectedSource
  | notReadyNoSourceEvidence
  | notReadyNoGroundedHypothesis
  | ready
  | notReadyNoExecutableTarget
  | notReadyTargetBlocked
  | refusedDeterministic
  | transientRetryRemaining
  | currentFailureReproduced
  | ranWithoutReproducing
  deriving DecidableEq

inductive StagnationRisk where
  | none
  | elevated
  | critical
  deriving DecidableEq

structure MemoryHypothesis where
  hypothesisId : JsString
  statement : JsString
  status : AgentHypothesisStatus
  progress : HypothesisProgress
  evidenceRefs : List JsString
  groundedOnTargets : List JsString

structure WindowCapability where
  readiness : SurfaceReadinessClass
  refusal : Option SurfaceRefusalClass

def unknownCapability : WindowCapability := ⟨.unknown, none⟩

structure MemoryInspectedTarget where
  target : JsString
  evidenceRef : Option JsString
  timesInspected : Nat
  salient : List JsString
  reproductionAttempts : Nat
  capability : WindowCapability

structure MemoryTargetCapability where
  target : JsString
  capability : WindowCapability

structure MemoryCapabilitySummary where
  executableTargets : Nat
  distinctExecutableTargets : Nat
  executableRepositories : Nat
  notExecutableTargets : Nat
  truncated : Bool

structure CampaignStrategyState where
  investigationsCompleted : Nat
  inspectedTargets : List JsString
  unsupportedTargets : List JsString

structure MemoryProgress where
  turnOrdinal : Nat
  toolActions : Nat
  evidenceCount : Nat
  hypothesisCount : Nat
  groundedHypothesisCount : Nat
  verificationReadyCount : Nat
  candidateCount : Nat
  reproductionAttempts : Nat
  mechanicalReproductions : Nat
  turnsSinceNewEvidence : Nat
  repeatedActionCount : Nat
  stagnationRisk : StagnationRisk
  reproductionReadiness : ReproductionReadiness

structure InvestigationMemory where
  investigationId : JsString
  phase : AgentPhase
  progress : MemoryProgress
  hypotheses : List MemoryHypothesis
  inspectedTargets : List MemoryInspectedTarget
  uninspectedTargets : List JsString
  targetCapabilities : List MemoryTargetCapability
  capabilitySummary : Option MemoryCapabilitySummary
  exhaustedTargets : List JsString
  recentActions : List MemoryAction
  reproductions : List MemoryReproduction
  candidateIds : List JsString
  proposalCandidateIds : List JsString
  directives : List JsString
  campaign : Option CampaignStrategyState

section Capability

def surfaceWindowFrom : List ReproductionSurfaceEntry → List ReproductionSurfaceEntry →
    List ReproductionSurfaceEntry
  | out, [] => out
  | out, entry :: rest =>
      if surfaceEntriesCap ≤ out.length then out
      else
        match boundedString (some entry.sourcePath) targetChars with
        | none => surfaceWindowFrom out rest
        | some sourcePath =>
            if sourcePath ∈ out.map ReproductionSurfaceEntry.sourcePath then
              surfaceWindowFrom out rest
            else
              surfaceWindowFrom (out ++ [{
                sourcePath
                readiness := entry.readiness
                executorClass := none
                refusal := if entry.readiness = .notExecutable then entry.refusal else none
                targetId := boundedString entry.targetId targetChars }]) rest

def surfaceWindow (surface : List ReproductionSurfaceEntry) : List ReproductionSurfaceEntry :=
  surfaceWindowFrom [] surface

/-- `capability.get(target)`, or what stands for an unclassified target. -/
def capabilityOf (window : List ReproductionSurfaceEntry) (target : JsString) : WindowCapability :=
  match window.find? fun entry => entry.sourcePath = target with
  | none => unknownCapability
  | some entry =>
      match entry.readiness with
      | .unknown => unknownCapability
      | .executableNow => ⟨.executableNow, none⟩
      | .notExecutable => ⟨.notExecutable, entry.refusal⟩

def capabilityRepositoryOf (sourcePath : JsString) : JsString :=
  match splitFirst ':' sourcePath with
  | some (c :: repoId, _) => c :: repoId
  | _ => "(unscoped)".toList

def summarizeCapability (surface window : List ReproductionSurfaceEntry) :
    Option MemoryCapabilitySummary :=
  if surface = [] then none
  else
    let executable := window.filter fun entry => entry.readiness = .executableNow
    some
      { executableTargets := executable.length
        distinctExecutableTargets :=
          ((executable.filterMap ReproductionSurfaceEntry.targetId).foldl pushNew []).length
        executableRepositories :=
          ((executable.map fun entry => capabilityRepositoryOf entry.sourcePath).foldl pushNew
            []).length
        notExecutableTargets :=
          (window.filter fun entry => entry.readiness = .notExecutable).length
        truncated := window.length < surface.length }

end Capability

def predictReadiness (groundedTargets : List JsString) (capability : JsString → WindowCapability) :
    Option ReproductionReadiness :=
  let capabilities := groundedTargets.map capability
  if capabilities.any fun c => c.readiness = .unknown || c.readiness = .executableNow then none
  else if capabilities.any fun c => c.refusal ≠ some .environmentBlocked then
    some .notReadyNoExecutableTarget
  else if capabilities ≠ [] then some .notReadyTargetBlocked
  else none

def deriveExecutionReadiness (ledger : DerivedLedger) (groundedTargets : List JsString)
    (capability : JsString → WindowCapability) : Option ReproductionReadiness :=
  let attempted := (ledger.targets.map Prod.snd).filter fun entry => entry.reproductionAttempts ≠ 0
  let counts := ledger.transientFailuresByDigest.map Prod.snd
  let transientConsumed := counts.any fun count => transientActionRetryBudget ≤ count
  if attempted.any TargetLedgerEntry.currentFailureHere then some .currentFailureReproduced
  else if attempted.any TargetLedgerEntry.ranWithoutReproducingHere then
    some .ranWithoutReproducing
  else if attempted.any TargetLedgerEntry.noExecutableTargetHere then
    some .notReadyNoExecutableTarget
  else if attempted.any fun entry => entry.targetBlockedHere || entry.environmentRefusedHere then
    some .notReadyTargetBlocked
  else if attempted.any TargetLedgerEntry.deterministicRefusedHere || transientConsumed then
    some .refusedDeterministic
  else if counts.any fun count => count < transientActionRetryBudget then
    some .transientRetryRemaining
  else predictReadiness groundedTargets capability

def inspectedTarget (window : List ReproductionSurfaceEntry) (entry : TargetLedgerEntry) :
    MemoryInspectedTarget where
  target := entry.target
  evidenceRef := entry.evidenceRef
  timesInspected := entry.timesInspected
  salient := entry.salient
  reproductionAttempts := entry.reproductionAttempts
  capability := capabilityOf window entry.target

def inspectedTargets (ledger : DerivedLedger) (window : List ReproductionSurfaceEntry) :
    List MemoryInspectedTarget :=
  (((ledger.targets.map Prod.snd).filter fun entry =>
    ¬(entry.timesInspected = 0 ∧ entry.reproductionAttempts = 0)).take inspectedTargetsCap).map
      (inspectedTarget window)

def TargetLedgerEntry.transientPending (entry : TargetLedgerEntry) : Bool :=
  !entry.deterministicRefusedHere && !entry.environmentRefusedHere &&
    !entry.ranWithoutReproducingHere && !entry.noExecutableTargetHere &&
    !entry.targetBlockedHere &&
    (entry.transientDigests.map Prod.snd).any fun count => count < transientActionRetryBudget

def TargetLedgerEntry.isExhausted (entry : TargetLedgerEntry) : Bool :=
  (entry.evidenceRef.isNone && 1 ≤ entry.timesInspected) ||
    (1 ≤ entry.reproductionAttempts && !(entry.reproducedHere || entry.currentFailureHere) &&
      !TargetLedgerEntry.transientPending entry) || entry.dedupedHere

def groundedOnTargets (ledger : DerivedLedger) (evidenceRefs : List JsString) : List JsString :=
  (evidenceRefs.filterMap fun ref => ledger.refToTarget.lookup ref).foldl pushNew []

def reproducedAt (ledger : DerivedLedger) (target : JsString) : Bool :=
  (ledger.targets.lookup target).any fun entry => entry.reproducedHere || entry.currentFailureHere

def progressOf (ledger : DerivedLedger) (observedRefs : List JsString) (hypothesis : AgentHypothesis)
    (evidenceRefs : List JsString) : HypothesisProgress :=
  let grounded := groundedOnTargets ledger evidenceRefs
  if hypothesis.status = .disproved then .disproved
  else if grounded.any (reproducedAt ledger) then .reproduced
  else if grounded ≠ [] then .verificationReady
  else if evidenceRefs.any fun ref => ref ∈ observedRefs then .grounded
  else .ungrounded

def memoryHypothesis (ledger : DerivedLedger) (observedRefs : List JsString)
    (hypothesis : AgentHypothesis) : MemoryHypothesis :=
  let evidenceRefs := boundedList hypothesis.evidenceRefs candidateIdsCap evidenceRefChars
  { hypothesisId := hypothesis.hypothesisId
    statement := (boundedString (some hypothesis.statement) statementChars).getD []
    status := hypothesis.status
    progress := progressOf ledger observedRefs hypothesis evidenceRefs
    evidenceRefs
    groundedOnTargets := groundedOnTargets ledger evidenceRefs }

def memoryHypotheses (ledger : DerivedLedger) (state : AgentRuntimeState) : List MemoryHypothesis :=
  (state.hypotheses.map (memoryHypothesis ledger state.evidenceRefs)).insertionSort fun left right =>
    progressRank left.progress ≤ progressRank right.progress

def isReadyProgress (progress : HypothesisProgress) : Bool :=
  progress = .verificationReady || progress = .reproduced

def groundedTargets (hypotheses : List MemoryHypothesis) : List JsString :=
  ((hypotheses.filter fun item => isReadyProgress item.progress).flatMap
    MemoryHypothesis.groundedOnTargets).foldl pushNew []

def reproductionReadiness (ledger : DerivedLedger) (inspected : List MemoryInspectedTarget)
    (hypotheses : List MemoryHypothesis) (capability : JsString → WindowCapability) :
    ReproductionReadiness :=
  if inspected = [] then .notReadyNoInspectedSource
  else if (inspected.filter fun item => item.evidenceRef.isSome) = [] then
    .notReadyNoSourceEvidence
  else
    match deriveExecutionReadiness ledger (groundedTargets hypotheses) capability with
    | some execution => execution
    | none =>
        if (hypotheses.filter fun item => isReadyProgress item.progress) = [] then
          .notReadyNoGroundedHypothesis
        else .ready

def classifyStagnation (turnsSinceNewEvidence repeatedActionCount : Nat) : StagnationRisk :=
  if stagnationCriticalTurns ≤ turnsSinceNewEvidence ∨ 2 ≤ repeatedActionCount then .critical
  else if stagnationElevatedTurns ≤ turnsSinceNewEvidence ∨ 1 ≤ repeatedActionCount then .elevated
  else .none

/-- `REPRODUCED` and `REPRODUCED_CURRENT_FAILURE`. -/
def isMechanical (reproduction : MemoryReproduction) : Bool :=
  reproduction.resultClass = "REPRODUCED".toList ||
    reproduction.resultClass = "REPRODUCED_CURRENT_FAILURE".toList

section Directives

structure DirectiveInput where
  inspected : List MemoryInspectedTarget
  groundableTargets : List MemoryInspectedTarget
  uninspectedTargets : List JsString
  hypotheses : List MemoryHypothesis
  reproductionReadiness : ReproductionReadiness
  proposalCandidateIds : List JsString
  candidateIds : List JsString
  stagnationRisk : StagnationRisk
  campaign : Option CampaignStrategyState
  reproductions : List MemoryReproduction
  capabilitySummary : Option MemoryCapabilitySummary

variable (input : DirectiveInput)

def pushDirective (directives : List JsString) (value : JsString) : List JsString :=
  if directivesCap ≤ directives.length then directives
  else
    match boundedString (some value) directiveChars with
    | none => directives
    | some bounded => pushNew directives bounded

/-- `String(evidenceRef)`. -/
def refText (entry : MemoryInspectedTarget) : JsString := entry.evidenceRef.getD "null".toList

def DirectiveInput.readyHypothesis : Option MemoryHypothesis :=
  input.hypotheses.find? fun item => item.progress = .verificationReady

def DirectiveInput.readyTarget : Option (MemoryHypothesis × MemoryInspectedTarget) := do
  let hypothesis ← input.readyHypothesis
  let target ← hypothesis.groundedOnTargets.head?
  let entry ← input.groundableTargets.find? fun item => item.target = target
  return (hypothesis, entry)

def DirectiveInput.verifyDirective : Option JsString :=
  if input.reproductionReadiness = .ready then
    (input.readyTarget.filter fun ready => ready.2.reproductionAttempts = 0).map fun ready =>
      "RERUN_SAFE_REPRODUCTION is available: sourcePath=".toList ++ ready.2.target ++
        " sourceEvidenceRef=".toList ++ refText ready.2 ++ " for ".toList ++
        ready.1.hypothesisId ++ ".".toList
  else none

def DirectiveInput.retryTarget : Option (MemoryHypothesis × MemoryInspectedTarget) :=
  if input.reproductionReadiness = .transientRetryRemaining then
    input.readyTarget.filter fun ready => ready.2.evidenceRef.isSome
  else none

def retryDirective (ready : MemoryHypothesis × MemoryInspectedTarget) : JsString :=
  "The last reproduction for ".toList ++ ready.2.target ++
    (" hit a transient environment issue with retry budget remaining: you may retry " ++
      "RERUN_SAFE_REPRODUCTION once with sourcePath=").toList ++ ready.2.target ++
    " sourceEvidenceRef=".toList ++ refText ready.2 ++ " for ".toList ++ ready.1.hypothesisId ++
    "; further repeats are discarded.".toList

def DirectiveInput.proposalDirective : Option JsString :=
  (input.reproductions.find? isMechanical).bind fun reproduced =>
    match input.groundableTargets.find? (fun item => item.target = reproduced.target),
        input.proposalCandidateIds with
    | some entry, [] =>
        some ("Reproduction observed for ".toList ++ entry.target ++
          ": REQUEST_FINDING_PROPOSAL with evidenceRefs=[".toList ++ refText entry ++
          "], then PROPOSE_CANDIDATE with the same observed refs.".toList)
    | none, [] => none
    | _, ids =>
        if input.candidateIds = [] then
          some ("Proposal captured for ".toList ++ List.intercalate ",".toList ids ++
            (": PROPOSE_CANDIDATE with observed evidence refs to reach mechanical " ++
              "admission.").toList)
        else none

def DirectiveInput.capabilityDirective : Option JsString :=
  if input.groundableTargets ≠ [] ∧
      ∀ item ∈ input.groundableTargets, item.capability.readiness = .notExecutable then
    (input.capabilitySummary.filter fun summary => 0 < summary.executableTargets).map fun summary =>
      "Host capability: inspected sources are NOT_EXECUTABLE but ".toList ++
        decimal summary.executableTargets ++ " executable target(s) across ".toList ++
        decimal summary.executableRepositories ++
        " repositories are visible; prefer an unexplored target.".toList
  else none

def DirectiveInput.hypothesisDirective : Option JsString :=
  (input.groundableTargets.find? fun item =>
    !input.hypotheses.any fun hypothesis => item.target ∈ hypothesis.groundedOnTargets).map
      fun item =>
        "FORM_HYPOTHESIS naming ".toList ++ item.target ++ " and citing evidenceRefs=[".toList ++
          refText item ++ "]; an uncited statement stays UNGROUNDED.".toList

def DirectiveInput.unexploredDirective : Option JsString :=
  if input.uninspectedTargets = [] then none
  else some ("Unexplored approved targets remain: ".toList ++
    List.intercalate ", ".toList (input.uninspectedTargets.take 3) ++
    ". INSPECT_SOURCE_SURFACE with \x7b\"path\":\"<one of them>\"\x7d.".toList)

def DirectiveInput.campaignDirective : Option JsString :=
  (input.campaign.filter fun campaign => campaign.inspectedTargets ≠ []).map fun campaign =>
    "This campaign already inspected ".toList ++ decimal campaign.inspectedTargets.length ++
      " target(s) across ".toList ++ decimal campaign.investigationsCompleted ++
      " completed investigation(s); prefer a target absent from that set.".toList

def DirectiveInput.unsupportedDirective : Option JsString :=
  (input.campaign.filter fun campaign => campaign.unsupportedTargets ≠ []).map fun campaign =>
    "This campaign already proved ".toList ++ decimal campaign.unsupportedTargets.length ++
      (" target(s) have no executable target; a deliberate revisit stays permitted but " ++
        "prefer unproven ground.").toList

def DirectiveInput.listDirective : Option JsString :=
  if input.inspected = [] ∧ input.uninspectedTargets = [] then
    some ("CALL_TOOL INSPECT_SOURCE_SURFACE with empty arguments to list the approved " ++
      "source paths.").toList
  else none

def DirectiveInput.stagnationDirective : Option JsString :=
  if input.stagnationRisk = .critical then
    some ("No new evidence for several turns and repeated identical actions are discarded: " ++
      "REPLAN with a different target or TERMINATE COMPLETE_NO_FINDING.").toList
  else none

def deriveDirectives : List JsString :=
  ([input.listDirective, input.verifyDirective, input.retryTarget.map retryDirective,
    input.proposalDirective, input.capabilityDirective, input.hypothesisDirective,
    input.unexploredDirective, input.campaignDirective, input.unsupportedDirective,
    input.stagnationDirective].filterMap id).foldl pushDirective []

end Directives

section Memory

def lastItems {α : Type} (count : Nat) (items : List α) : List α :=
  items.drop (items.length - count)

variable (state : AgentRuntimeState) (campaign : Option CampaignStrategyState)

def directiveInput : DirectiveInput :=
  let ledger := deriveLedger state.actionLog
  let window := surfaceWindow state.reproductionSurface
  let inspected := inspectedTargets ledger window
  let hypotheses := memoryHypotheses ledger state
  let turnsSinceNewEvidence := ledger.turnOrdinals.length - ledger.lastEvidenceGainOrdinal.getD 0
  { inspected
    groundableTargets := inspected.filter fun item => item.evidenceRef.isSome
    uninspectedTargets := boundedList (state.knownTargets.filter fun target =>
      target ∉ inspected.map MemoryInspectedTarget.target) uninspectedTargetsCap targetChars
    hypotheses
    reproductionReadiness :=
      reproductionReadiness ledger inspected hypotheses (capabilityOf window)
    proposalCandidateIds := boundedList ledger.proposalCandidateIds candidateIdsCap targetChars
    candidateIds := boundedList state.candidateIds candidateIdsCap targetChars
    stagnationRisk := classifyStagnation turnsSinceNewEvidence ledger.repeatedActionCount
    campaign
    reproductions := ledger.reproductions
    capabilitySummary := summarizeCapability state.reproductionSurface window }

def deriveInvestigationMemory : InvestigationMemory :=
  let ledger := deriveLedger state.actionLog
  let window := surfaceWindow state.reproductionSurface
  let input := directiveInput state campaign
  { investigationId := state.campaignId
    phase := state.phase
    progress :=
      { turnOrdinal := ledger.turnOrdinals.length
        toolActions := state.usage.toolActions
        evidenceCount := state.evidenceRefs.length
        hypothesisCount := state.hypotheses.length
        groundedHypothesisCount := (input.hypotheses.filter fun item =>
          item.progress ≠ .ungrounded ∧ item.progress ≠ .disproved).length
        verificationReadyCount := (input.hypotheses.filter fun item =>
          isReadyProgress item.progress).length
        candidateCount := state.candidateIds.length
        reproductionAttempts := ledger.reproductions.length
        mechanicalReproductions := (ledger.reproductions.filter isMechanical).length
        turnsSinceNewEvidence :=
          ledger.turnOrdinals.length - ledger.lastEvidenceGainOrdinal.getD 0
        repeatedActionCount := ledger.repeatedActionCount
        stagnationRisk := input.stagnationRisk
        reproductionReadiness := input.reproductionReadiness }
    hypotheses := input.hypotheses.take hypothesesCap
    inspectedTargets := input.inspected
    uninspectedTargets := input.uninspectedTargets
    targetCapabilities :=
      ((input.inspected.map fun (item : MemoryInspectedTarget) =>
          MemoryTargetCapability.mk item.target item.capability) ++
        input.uninspectedTargets.map fun (target : JsString) =>
          MemoryTargetCapability.mk target (capabilityOf window target)).take
        targetCapabilitiesCap
    capabilitySummary := input.capabilitySummary
    exhaustedTargets := boundedList
      (((ledger.targets.map Prod.snd).filter TargetLedgerEntry.isExhausted).map
        TargetLedgerEntry.target) exhaustedTargetsCap targetChars
    recentActions := lastItems recentActionsCap ledger.actions
    reproductions := lastItems reproductionsCap ledger.reproductions
    candidateIds := input.candidateIds
    proposalCandidateIds := input.proposalCandidateIds
    directives := deriveDirectives input
    campaign }

end Memory

end NightWatch.WorkingMemory.Derive
