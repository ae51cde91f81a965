import NightWatch.AgentRuntime.Checkpoint
import NightWatch.AgentRuntime.SpendAdmission

namespace NightWatch.AgentRuntime.Runtime

open Lib.JsText Lib.JsData Lib.JsRuntime AgentProtocol.Vocabulary AgentProtocol.Actions
  AgentProtocol.Budget AgentProtocol.Validate AgentRuntime.SpendAdmission AgentRuntime.ToolResults
  AgentRuntime.State AgentRuntime.Checkpoint

/-- The data among the dependencies; the reasoner, the executor and the clock are the
environment that a run meets. -/
structure AgentRuntimeDeps where
  campaignId : JsString
  budgetPolicy : AgentBudgetPolicy
  authorizedEnvironments : Option (List AgentToolEnvironment)
  allowedToolIds : Option (List AgentToolId)
  maxTurns : Option JsNumber
  priorSurface : JsValue
  spendCeiling : Option SpendCeiling

def agentRuntimeDefaultMaxTurns : Nat := 50

def defaultAllowedToolIds (authorizedEnvironments : List AgentToolEnvironment) : List AgentToolId :=
  agentToolIds.filter fun tool => tool.environment ∈ authorizedEnvironments

def AgentRuntimeDeps.environments (deps : AgentRuntimeDeps) : List AgentToolEnvironment :=
  deps.authorizedEnvironments.getD [.localOnly]

def AgentRuntimeDeps.toolIds (deps : AgentRuntimeDeps) : List AgentToolId :=
  deps.allowedToolIds.getD (defaultAllowedToolIds deps.environments)

def AgentRuntimeDeps.turnCap (deps : AgentRuntimeDeps) : JsNumber :=
  deps.maxTurns.getD (.ofNat agentRuntimeDefaultMaxTurns)

/-- `Map<sourcePath, entry>` in the order of insertion. -/
abbrev SurfaceMap : Type := List (JsString × ReproductionSurfaceEntry)

structure RuntimeObject where
  deps : AgentRuntimeDeps
  status : AgentRuntimeStatus
  phase : AgentPhase
  hypotheses : List AgentHypothesis
  actionLog : List AgentActionRecord
  evidenceRefs : List JsString
  candidateIds : List JsString
  usage : AgentBudgetUsage
  byteLedger : AgentByteLedger
  terminationReason : Option AgentTerminationReason
  turnBase : Nat
  turnsThisRun : Nat
  wallBaseMs : ℤ
  runStartMs : Option ℤ
  pausedRequested : Bool
  cancelled : Bool
  pendingUntrusted : List JsValue
  knownTargets : List JsString
  reproductionSurface : SurfaceMap

def RuntimeObject.policy (o : RuntimeObject) : AgentBudgetPolicy := o.deps.budgetPolicy

def RuntimeObject.completedTurns (o : RuntimeObject) : Nat := o.turnBase + o.turnsThisRun

/-- `map.set` of each entry in turn. -/
def setEntries (surface : SurfaceMap) (entries : List ReproductionSurfaceEntry) : SurfaceMap :=
  entries.foldl (fun surface entry => mapSet entry.sourcePath entry surface) surface

def inheritSurface : SurfaceMap → List ReproductionSurfaceEntry → SurfaceMap
  | surface, [] => surface
  | surface, entry :: rest =>
      if reproductionSurfaceCap ≤ surface.length then surface
      else inheritSurface (mapSet entry.sourcePath entry surface) rest

def learnSurface : SurfaceMap → List ReproductionSurfaceEntry → SurfaceMap
  | surface, [] => surface
  | surface, entry :: rest =>
      if reproductionSurfaceCap ≤ surface.length ∧ entry.sourcePath ∉ surface.map Prod.fst then
        surface
      else learnSurface (mapSet entry.sourcePath entry surface) rest

def RuntimeObject.create (deps : AgentRuntimeDeps) : RuntimeObject where
  deps := deps
  status := .ready
  phase := .plan
  hypotheses := []
  actionLog := []
  evidenceRefs := []
  candidateIds := []
  usage := zeroAgentBudgetUsage
  byteLedger := zeroAgentByteLedger
  terminationReason := none
  turnBase := 0
  turnsThisRun := 0
  wallBaseMs := 0
  runStartMs := none
  pausedRequested := false
  cancelled := false
  pendingUntrusted := []
  knownTargets := []
  reproductionSurface :=
    inheritSurface [] ((normalizeSurfaceEntries deps.priorSurface).getD [])

/-- `new AgentRuntime(deps)`; `none` is the thrown error. -/
def construct (deps : AgentRuntimeDeps) : Option RuntimeObject :=
  if deps.campaignId.isEmpty then none else some (.create deps)

def RuntimeObject.restored (deps : AgentRuntimeDeps) (state : AgentRuntimeState)
    (completedTurns : Nat) : RuntimeObject where
  deps := deps
  status := .ready
  phase := state.phase
  hypotheses := state.hypotheses
  actionLog := state.actionLog
  evidenceRefs := state.evidenceRefs
  candidateIds := state.candidateIds
  usage := state.usage
  byteLedger := ledgerOf state
  terminationReason := none
  turnBase := completedTurns
  turnsThisRun := 0
  wallBaseMs := state.usage.wallTimeMs
  runStartMs := none
  pausedRequested := false
  cancelled := false
  pendingUntrusted := []
  knownTargets := state.knownTargets
  reproductionSurface := setEntries [] state.reproductionSurface

def constructRestored (deps : AgentRuntimeDeps) (state : AgentRuntimeState)
    (completedTurns : Nat) : Option RuntimeObject :=
  if deps.campaignId.isEmpty then none
  else if state.campaignId ≠ deps.campaignId then none
  else some (.restored deps state completedTurns)

/-- `none` is a thrown error, or a document whose parts are not of the types it is cast to. -/
def resumeFromCheckpoint (rt : Runtime) (document : JsValue) (deps : AgentRuntimeDeps) :
    Option RuntimeObject :=
  match parseCheckpoint rt document with
  | .error _ => none
  | .ok parsed =>
      if parsed.campaignId ≠ deps.campaignId then none
      else
        match parseResumeCursor (.str parsed.resumeCursor) deps.campaignId with
        | .error _ => none
        | .ok completedTurns =>
            (readState parsed.state).bind fun state => constructRestored deps state completedTurns

def RuntimeObject.snapshot (o : RuntimeObject) : AgentRuntimeState where
  campaignId := o.deps.campaignId
  status := o.status
  phase := o.phase
  hypotheses := o.hypotheses
  actionLog := o.actionLog
  evidenceRefs := o.evidenceRefs
  candidateIds := o.candidateIds
  knownTargets := o.knownTargets
  reproductionSurface := o.reproductionSurface.map Prod.snd
  byteLedger := o.byteLedger
  policy := o.policy
  usage := o.usage
  terminationReason := o.terminationReason

/-- `checkpoint()`: the document, and the object that has accounted for it. One that cannot be
written is an error that leaves the object as it was. -/
def RuntimeObject.checkpoint (rt : Runtime) (o : RuntimeObject) :
    RuntimeObject × Option AgentCheckpoint :=
  match createCheckpoint rt o.snapshot o.completedTurns with
  | .ok checkpoint => ({ o with byteLedger := checkpoint.state.byteLedger }, some checkpoint)
  | .error _ => (o, none)

def RuntimeObject.record (o : RuntimeObject) (entry : AgentActionRecord) : RuntimeObject :=
  { o with actionLog := o.actionLog ++ [entry] }

def RuntimeObject.entry (o : RuntimeObject) (turnId : JsString) (intentKind resultClass : JsString)
    (evidenceRefs : List JsString) : AgentActionRecord where
  turnId := turnId
  phase := o.phase
  intentKind := intentKind
  toolId := none
  argumentDigest := none
  resultClass := resultClass
  evidenceRefs := evidenceRefs
  target := none
  salient := none
  disposition := none

def RuntimeObject.note (o : RuntimeObject) (turnId : JsString) (intentKind resultClass : JsString)
    (evidenceRefs : List JsString) : RuntimeObject :=
  o.record (o.entry turnId intentKind resultClass evidenceRefs)

def withEvidence : List JsString → List JsString → List JsString
  | known, [] => known
  | known, ref :: rest =>
      if ref = [] ∨ ref ∈ known then withEvidence known rest
      else withEvidence (known ++ [ref]) rest

def RuntimeObject.addEvidence (o : RuntimeObject) (refs : List JsString) : RuntimeObject :=
  { o with evidenceRefs := withEvidence o.evidenceRefs refs }

def knownTargetsCap : Nat := 48

def withTargets : List JsString → List JsString → List JsString
  | known, [] => known
  | known, target :: rest =>
      if knownTargetsCap ≤ known.length then known
      else if target = [] ∨ target ∈ known then withTargets known rest
      else withTargets (known ++ [target]) rest

def RuntimeObject.learnTargets (o : RuntimeObject) (targets : List JsString) : RuntimeObject :=
  { o with knownTargets := withTargets o.knownTargets targets }

def RuntimeObject.lastConfirmedTargetFor (o : RuntimeObject) (toolId argumentDigest : JsString) :
    Option JsString :=
  (o.actionLog.reverse.find? fun record =>
    record.toolId == some toolId && record.argumentDigest == some argumentDigest).bind
      AgentActionRecord.target

def sourceFile : JsString := "SOURCE_FILE".toList

def RuntimeObject.groundingRefs (o : RuntimeObject) (target : JsString) : List JsString :=
  (o.actionLog.filter fun record =>
    record.toolId == some AgentToolId.inspectSourceSurface.text &&
      record.resultClass == sourceFile && record.target == some target).flatMap
        AgentActionRecord.evidenceRefs

def withVerdict (groundingRefs : List JsString) (next : AgentHypothesisStatus)
    (hypothesis : AgentHypothesis) : AgentHypothesis :=
  if hypothesis.evidenceRefs.any fun ref => groundingRefs.contains ref then
    { hypothesis with status := next }
  else hypothesis

def RuntimeObject.applyReproductionVerdict (o : RuntimeObject) (target resultClass : JsString) :
    RuntimeObject :=
  if resultClass = "REPRODUCED".toList then
    { o with hypotheses := o.hypotheses.map (withVerdict (o.groundingRefs target) .supported) }
  else if resultClass = "NOT_REPRODUCED".toList then
    { o with hypotheses := o.hypotheses.map (withVerdict (o.groundingRefs target) .disproved) }
  else o

/-- `run` and `finish` read the clock; without a running segment there is nothing to add. -/
def RuntimeObject.refreshWallTime (o : RuntimeObject) (now : ℤ) : RuntimeObject :=
  match o.runStartMs with
  | none => o
  | some start => { o with usage := { o.usage with wallTimeMs := o.wallBaseMs + (now - start) } }

structure RequestSizes where
  rendered : Nat
  memory : Nat
  untrusted : Nat

def RuntimeObject.admits (o : RuntimeObject) (sizes : RequestSizes) : Bool :=
  o.deps.spendCeiling.all fun ceiling =>
    admitProviderCall ceiling sizes.rendered (chargedInputBytes o.byteLedger)
      (chargedOutputBytes o.byteLedger)

/-- `buildRequest` takes the pending envelopes with it. -/
def RuntimeObject.buildRequest (o : RuntimeObject) : RuntimeObject :=
  { o with pendingUntrusted := [] }

def RuntimeObject.chargeRequest (o : RuntimeObject) (sizes : RequestSizes) : RuntimeObject :=
  let byteLedger :=
    { o.byteLedger with
      renderedInputBytes := o.byteLedger.renderedInputBytes + sizes.rendered
      requestMemoryBytes := o.byteLedger.requestMemoryBytes + sizes.memory
      requestUntrustedBytes := o.byteLedger.requestUntrustedBytes + sizes.untrusted }
  { o with
    byteLedger := byteLedger
    usage := { o.usage with inputBytes := chargedInputBytes byteLedger } }

def RuntimeObject.chargeResponse (o : RuntimeObject) (stdoutBytes stderrBytes : Nat) :
    RuntimeObject :=
  let byteLedger :=
    { o.byteLedger with
      providerResponseBytes := o.byteLedger.providerResponseBytes + stdoutBytes
      providerStderrBytes := o.byteLedger.providerStderrBytes + stderrBytes }
  { o with
    byteLedger := byteLedger
    usage :=
      { o.usage with
        reasonerCalls := o.usage.reasonerCalls + 1
        outputBytes := chargedOutputBytes byteLedger } }

def RuntimeObject.measureResponse (rt : Runtime) (o : RuntimeObject) (response : JsValue) :
    RuntimeObject :=
  { o with
    byteLedger :=
      { o.byteLedger with
        reasonerOutputBytes :=
          o.byteLedger.reasonerOutputBytes + byteLength (rt.jsonStringify response) } }

def RuntimeObject.countFailure (o : RuntimeObject) : RuntimeObject :=
  { o with
    usage :=
      { o.usage with
        consecutiveFailures := o.usage.consecutiveFailures + 1
        failures := o.usage.failures + 1 } }

def RuntimeObject.countProviderFailure (o : RuntimeObject) : RuntimeObject :=
  { o with
    usage :=
      { o.usage with
        providerFailures := o.usage.providerFailures + 1
        consecutiveFailures := o.usage.consecutiveFailures + 1
        failures := o.usage.failures + 1 } }

def RuntimeObject.chargeTool (rt : Runtime) (o : RuntimeObject) (result : AgentToolResult) :
    RuntimeObject :=
  let byteLedger :=
    { o.byteLedger with
      toolResultBytes := o.byteLedger.toolResultBytes + result.outputBytes
      toolEnvelopeBytes :=
        o.byteLedger.toolEnvelopeBytes + byteLength (rt.jsonStringify (.arr result.untrusted)) }
  let charged : RuntimeObject :=
    { o with
      byteLedger := byteLedger
      usage :=
        { o.usage with
          toolActions := o.usage.toolActions + 1
          outputBytes := chargedOutputBytes byteLedger
          toolPayloadBytes := chargedToolPayloadBytes byteLedger } }
  if result.ok then charged else charged.countFailure

def pendingUntrustedCap : Nat := 8

def RuntimeObject.keepUntrusted (o : RuntimeObject) (untrusted : List JsValue) : RuntimeObject :=
  let all := o.pendingUntrusted ++ untrusted
  { o with pendingUntrusted := all.drop (all.length - pendingUntrustedCap) }

def RuntimeObject.learn (o : RuntimeObject) (tool : AgentToolId) (result : AgentToolResult) :
    RuntimeObject :=
  if result.ok && (tool = .inspectSourceSurface || tool = .rerunSafeReproduction) then
    let targeted := (o.learnTargets (result.memory.availableTargets.getD [])).learnTargets
      result.memory.target.toList
    { targeted with
      reproductionSurface :=
        learnSurface o.reproductionSurface (result.memory.reproductionSurface.getD []) }
  else o

def recordedClass (result : AgentToolResult) : JsString :=
  if result.ok then result.resultClass else toolError

def RuntimeObject.toolEntry (o : RuntimeObject) (turnId : JsString) (tool : AgentToolId)
    (argumentDigest : JsString) (result : AgentToolResult) : AgentActionRecord where
  turnId := turnId
  phase := o.phase
  intentKind := "CALL_TOOL".toList
  toolId := some tool.text
  argumentDigest := some argumentDigest
  resultClass := recordedClass result
  evidenceRefs := result.evidenceRefs
  target := result.memory.target
  salient := result.memory.salient
  disposition := if result.ok then none else result.disposition

def callKey (tool : AgentToolId) (argumentDigest : JsString) : ActionKey :=
  ⟨"CALL_TOOL".toList, some tool.text, some argumentDigest⟩

def RuntimeObject.discards (o : RuntimeObject) (tool : AgentToolId) (argumentDigest : JsString) :
    Bool :=
  detectRepeatedAction o.actionLog (callKey tool argumentDigest) ||
    detectExhaustedAction o.actionLog (callKey tool argumentDigest)

def RuntimeObject.discardEntry (o : RuntimeObject) (turnId : JsString) (tool : AgentToolId)
    (argumentDigest : JsString) : AgentActionRecord where
  turnId := turnId
  phase := o.phase
  intentKind := "CALL_TOOL".toList
  toolId := some tool.text
  argumentDigest := some argumentDigest
  resultClass := dedupedRepeat
  evidenceRefs := []
  target := o.lastConfirmedTargetFor tool.text argumentDigest
  salient := none
  disposition := none

def RuntimeObject.discardCall (o : RuntimeObject) (turnId : JsString) (tool : AgentToolId)
    (argumentDigest : JsString) : RuntimeObject :=
  o.record (o.discardEntry turnId tool argumentDigest)

def RuntimeObject.applyToolResult (rt : Runtime) (o : RuntimeObject) (turnId : JsString)
    (tool : AgentToolId) (argumentDigest : JsString) (result : AgentToolResult) : RuntimeObject :=
  let charged := ((o.chargeTool rt result).addEvidence result.evidenceRefs).keepUntrusted
    result.untrusted
  let learned := charged.learn tool result
  let recorded := learned.record (learned.toolEntry turnId tool argumentDigest result)
  match tool, result.memory.target with
  | .rerunSafeReproduction, some target =>
      recorded.applyReproductionVerdict target (recordedClass result)
  | _, _ => recorded

structure TerminalOutcome where
  reason : AgentTerminationReason
  withCheckpoint : Bool
  deriving DecidableEq

inductive IntentOutcome where
  | continues
  | replanned
  | terminal (outcome : TerminalOutcome)

def RuntimeObject.formHypothesis (o : RuntimeObject) (hypothesisId statement : JsString)
    (evidenceRefs : List JsString) : RuntimeObject :=
  let hypothesis : AgentHypothesis := ⟨hypothesisId, statement, evidenceRefs, .opened⟩
  { o with
    hypotheses := o.hypotheses ++ [hypothesis]
    evidenceRefs := withEvidence o.evidenceRefs evidenceRefs }

def RuntimeObject.hasHypothesis (o : RuntimeObject) (hypothesisId : JsString) : Bool :=
  o.hypotheses.any fun hypothesis => hypothesis.hypothesisId == hypothesisId

def RuntimeObject.formDrafts (o : RuntimeObject) : List ReasonerHypothesisDraft → RuntimeObject
  | [] => o
  | draft :: rest =>
      if o.hasHypothesis draft.hypothesisId then o.formDrafts rest
      else (o.formHypothesis draft.hypothesisId draft.statement draft.evidenceRefs).formDrafts rest

def RuntimeObject.proposeCandidate (o : RuntimeObject) (candidateId : JsString)
    (evidenceRefs : List JsString) : RuntimeObject :=
  { o with
    candidateIds :=
      if candidateId ∈ o.candidateIds then o.candidateIds else o.candidateIds ++ [candidateId]
    usage := { o.usage with candidateCount := o.usage.candidateCount + 1 }
    evidenceRefs := withEvidence o.evidenceRefs evidenceRefs }

def resumable (reason : AgentTerminationReason) : Bool :=
  reason = .budgetExhausted || reason = .paused

def safetyBlocked : TerminalOutcome := ⟨.safetyBlocked, false⟩

def budgetStop : TerminalOutcome := ⟨.budgetExhausted, true⟩

/-- `applyIntent`, for every intent that calls no known tool. -/
def RuntimeObject.applyIntent (o : RuntimeObject) (turnId : JsString) :
    AgentIntent → RuntimeObject × IntentOutcome
  | .callTool _ _ _ =>
      (o.note turnId "BLOCKED".toList "SAFETY_BLOCKED_UNKNOWN_TOOL".toList [],
        .terminal safetyBlocked)
  | .formHypothesis hypothesisId statement evidenceRefs =>
      if o.hasHypothesis hypothesisId then
        (o.note turnId "FORM_HYPOTHESIS".toList "HYPOTHESIS_DUPLICATE".toList [], .continues)
      else
        ((o.formHypothesis hypothesisId statement evidenceRefs).note turnId
          "FORM_HYPOTHESIS".toList "HYPOTHESIS_FORMED".toList evidenceRefs, .continues)
  | .proposeCandidate candidateId evidenceRefs =>
      if proposeCandidateRequiresEvidence (.proposeCandidate candidateId evidenceRefs) then
        ((o.proposeCandidate candidateId evidenceRefs).note turnId "PROPOSE_CANDIDATE".toList
          candidateProposed evidenceRefs, .continues)
      else
        (o.note turnId "PROPOSE_CANDIDATE".toList
          "CANDIDATE_REJECTED_MISSING_EVIDENCE".toList [], .continues)
  | .rejectCandidate candidateId _ =>
      (({ o with candidateIds := o.candidateIds.filter fun id => id ≠ candidateId }).note turnId
        "REJECT_CANDIDATE".toList candidateRejected [], .continues)
  | .replan _ => (o.note turnId "REPLAN".toList "REPLANNED".toList [], .replanned)
  | .pause => (o.note turnId "PAUSE".toList "PAUSED".toList [], .terminal ⟨.paused, true⟩)
  | .cancel =>
      (o.note turnId "CANCEL".toList "CANCELLED".toList [], .terminal ⟨.cancelled, false⟩)
  | .terminate reason =>
      (o.note turnId "TERMINATE".toList ("TERMINATED_".toList ++ reason.text) [],
        .terminal ⟨reason, resumable reason⟩)

variable (o : RuntimeObject)

theorem formDrafts_frame (drafts : List ReasonerHypothesisDraft) :
    ∃ hypotheses evidenceRefs, o.formDrafts drafts = { o with hypotheses, evidenceRefs } := by
  induction drafts generalizing o with
  | nil => exact ⟨o.hypotheses, o.evidenceRefs, rfl⟩
  | cons draft rest ih =>
      rw [RuntimeObject.formDrafts]
      split
      · exact ih o
      · obtain ⟨hypotheses, evidenceRefs, hrest⟩ :=
          ih (o.formHypothesis draft.hypothesisId draft.statement draft.evidenceRefs)
        exact ⟨hypotheses, evidenceRefs, hrest⟩

theorem applyIntent_frame (turnId : JsString) (intent : AgentIntent) :
    ∃ hypotheses actionLog evidenceRefs candidateIds candidateCount,
      (o.applyIntent turnId intent).1 =
        { o with
          hypotheses, actionLog, evidenceRefs, candidateIds
          usage := { o.usage with candidateCount } } := by
  cases intent with
  | formHypothesis hypothesisId statement evidenceRefs =>
      simp only [RuntimeObject.applyIntent]
      split
      · exact ⟨_, _, _, _, _, rfl⟩
      · exact ⟨_, _, _, _, _, rfl⟩
  | proposeCandidate candidateId evidenceRefs =>
      simp only [RuntimeObject.applyIntent]
      split
      · exact ⟨_, _, _, _, _, rfl⟩
      · exact ⟨_, _, _, _, _, rfl⟩
  | _ => exact ⟨_, _, _, _, _, rfl⟩

theorem learn_frame (tool : AgentToolId) (result : AgentToolResult) :
    ∃ knownTargets reproductionSurface,
      o.learn tool result = { o with knownTargets, reproductionSurface } := by
  unfold RuntimeObject.learn
  split
  · exact ⟨_, _, rfl⟩
  · exact ⟨o.knownTargets, o.reproductionSurface, rfl⟩

theorem applyReproductionVerdict_frame (target resultClass : JsString) :
    ∃ hypotheses, o.applyReproductionVerdict target resultClass = { o with hypotheses } := by
  unfold RuntimeObject.applyReproductionVerdict
  split_ifs
  · exact ⟨_, rfl⟩
  · exact ⟨_, rfl⟩
  · exact ⟨o.hypotheses, rfl⟩

theorem applyToolResult_frame (rt : Runtime) (o : RuntimeObject) (turnId : JsString)
    (tool : AgentToolId) (argumentDigest : JsString) (result : AgentToolResult) :
    ∃ hypotheses actionLog evidenceRefs pendingUntrusted knownTargets reproductionSurface,
      o.applyToolResult rt turnId tool argumentDigest result =
        { o.chargeTool rt result with
          hypotheses, actionLog, evidenceRefs, pendingUntrusted, knownTargets
          reproductionSurface } := by
  obtain ⟨knownTargets, reproductionSurface, hlearned⟩ :=
    learn_frame (((o.chargeTool rt result).addEvidence result.evidenceRefs).keepUntrusted
      result.untrusted) tool result
  unfold RuntimeObject.applyToolResult
  dsimp only
  rw [hlearned]
  split
  · rename_i target htarget
    obtain ⟨hypotheses, hverdict⟩ := applyReproductionVerdict_frame
      (RuntimeObject.record _ (RuntimeObject.toolEntry _ turnId .rerunSafeReproduction
        argumentDigest result)) target (recordedClass result)
    rw [hverdict]
    exact ⟨_, _, _, _, _, _, rfl⟩
  · exact ⟨_, _, _, _, _, _, rfl⟩

end NightWatch.AgentRuntime.Runtime
