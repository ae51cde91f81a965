import NightWatch.Lib.Loop
import NightWatch.Triage.Types

/-!
The failure minimizer: a deterministic reduction of the original sequence by chunks and
then an audit of all single deletions, each candidate being replayed through the
callback after the guards, within two budgets. The loops run on fuel.
-/

namespace NightWatch.Triage.Minimizer

open Lib.JsText Lib.JsData Lib.Loop Triage.Types

def zeroSafety : SafetyVector where
  productionAttempts := .ofNat 0
  proxyViolations := .ofNat 0
  unknownDestinations := .ofNat 0
  unknownApprovals := .ofNat 0
  knownMutations := .ofNat 0
  actionCausedUnknown := .ofNat 0
  dbQueries := .ofNat 0

structure ActionOccurrence where
  index : Nat
  action : MinimizationAction
  deriving DecidableEq

structure EvaluatedCandidate where
  occurrenceSequence : List ActionOccurrence
  outcome : CandidateReplayOutcome
  evaluation : CandidateEvaluation

def sequenceKey (sequence : List ActionOccurrence) : JsString :=
  join '>' (sequence.map fun item => decimal item.index ++ ':' :: item.action.actionId)

def actionIds (sequence : List ActionOccurrence) : List JsString :=
  sequence.map (·.action.actionId)

def occurrenceOrdinals (sequence : List ActionOccurrence) : List Nat := sequence.map (·.index)

def allZeroSafety (safety : SafetyVector) : Bool := safety = zeroSafety

def valid : CandidateGuardResult := ⟨true, none⟩

def refused (reason : GuardReason) : CandidateGuardResult := ⟨false, some reason⟩

def safeGuardFromContract (contract : MinimizationSafetyContract) : CandidateGuardResult :=
  if !contract.devOnly then refused .devGateFailed
  else if !contract.authValid then refused .authGateFailed
  else if !contract.outboundPolicySatisfied then refused .outboundPolicyFailed
  else if !contract.safeActionCatalogSatisfied then refused .actionNotApproved
  else if !contract.semanticReadOnly then refused .semanticPolicyFailed
  else if !contract.mutationTripwireZero then refused .mutationTripwire
  else if !contract.unknownTripwireZero then refused .unknownTripwire
  else if !contract.routeEnvelopeSatisfied then refused .routeEnvelopeFailed
  else if !contract.privacySatisfied then refused .privacyPolicyFailed
  else valid

def isIdChar (c : Char) : Bool := c.isAlphanum || "_.-".toList.contains c

def isActionId (s : JsString) : Bool := upTo 120 isIdChar s

def isRouteClass (s : JsString) : Bool :=
  match s with
  | '/' :: rest => rest.all fun c => c.isAlphanum || "._~!$&'()*+,;=:@%/-".toList.contains c
  | _ => false

section Guards

variable {W : Type} (options : MinimizationOptions W)

def occurrences : List ActionOccurrence :=
  options.originalSequence.mapIdx fun index action => ⟨index, action⟩

def originalIds : List JsString := actionIds (occurrences options)

def approvedIds : List JsString := options.approvedActionIds.getD (originalIds options)

def safeActions : List (JsString × SafeAction) :=
  (options.safeActionCatalog.getD []).foldl
    (fun entries action => mapSet action.actionId action entries) []

def safetyContract : MinimizationSafetyContract :=
  options.safety.getD passiveMinimizationSafety

def budgetOf : MinimizationBudget := options.budget.getD realDevMinimizationBudget

def validateActionCatalog (action : MinimizationAction) : CandidateGuardResult :=
  if action.actionId ∉ approvedIds options then refused .actionNotApproved
  else if ((safeActions options).lookup action.actionId).any (·.status ≠ .approved) then
    refused .actionNotApproved
  else if !action.sourceApproved then refused .actionNotApproved
  else if !isActionId action.actionId then refused .actionNotApproved
  else if !isRouteClass action.routeClass then refused .routeEnvelopeFailed
  else valid

def refusedAction : List ActionOccurrence → Option CandidateGuardResult
  | [] => none
  | item :: rest =>
      if item.action.actionId ∉ originalIds options then some (refused .actionNotInOriginal)
      else
        let check := validateActionCatalog options item.action
        if !check.valid then some check else refusedAction rest

def guardSequence (world : W) (sequence : List ActionOccurrence) :
    Except JsString CandidateGuardResult × W :=
  let contract := safeGuardFromContract (safetyContract options)
  if !contract.valid then (.ok contract, world)
  else
    match refusedAction options sequence with
    | some check => (.ok check, world)
    | none =>
        match options.preconditionCheck with
        | none => (.ok valid, world)
        | some preconditionCheck =>
            match preconditionCheck world (sequence.map (·.action)) with
            | (.error message, world) => (.error message, world)
            | (.ok precondition, world) =>
                (.ok (if !precondition.valid then precondition else valid), world)

end Guards

/-- `count` chunks from `cursor` on, the first `remainder` of them one item longer. -/
def chunksFrom {α : Type} (items : List α) (base : Nat) : Nat → Nat → Nat → List (List α)
  | 0, _, _ => []
  | count + 1, remainder, cursor =>
      let size := base + if 0 < remainder then 1 else 0
      (items.drop cursor).take size :: chunksFrom items base count (remainder - 1) (cursor + size)

def splitIntoChunks {α : Type} (items : List α) (count : Nat) : List (List α) :=
  let actual := max 1 (min count items.length)
  chunksFrom items (items.length / actual) actual (items.length % actual) 0

def withoutChunk (items chunk : List ActionOccurrence) : List ActionOccurrence :=
  items.filter (· ∉ chunk)

def confidenceFor (fresh : Bool) (reproductionCount : Nat) (guarantee : MinimalityGuarantee)
    (budgetExhausted : Bool) : TriageConfidence :=
  if !fresh || reproductionCount = 0 then .unresolved
  else if !budgetExhausted && guarantee = .oneMinimal && decide (2 ≤ reproductionCount) then .high
  else if !budgetExhausted then .medium
  else .low

def removedActionIds (original minimal : List ActionOccurrence) : List JsString :=
  (original.filter (· ∉ minimal)).map (·.action.actionId)

def normalizeExecutorOutcome (result : CandidateReplayOutcome) (targetFingerprint : JsString) :
    CandidateReplayOutcome :=
  if result.status = .failure && result.anomalyFingerprint.any (· ≠ targetFingerprint) then
    { status := .pass
      anomalyFingerprint := none
      semanticFindingFingerprint := result.semanticFindingFingerprint
      semanticContractIdentity := result.semanticContractIdentity
      safety := result.safety
      invalidReason := none
      executorFailure := none
      routeClass := result.routeClass }
  else result

structure Classification where
  disposition : EvaluationDisposition
  reason : JsString
  isMatch : Bool

def outcomeReason (outcome : CandidateReplayOutcome) (targetFingerprint : JsString) :
    Classification :=
  match outcome.executorFailure with
  | some failure => ⟨.invalid, failure.text, false⟩
  | none =>
      if outcome.status = .invalid then
        ⟨.invalid, (outcome.invalidReason.getD .preconditionDivergence).text, false⟩
      else if !allZeroSafety outcome.safety then
        ⟨.invalid, "SAFETY_VECTOR_NONZERO".toList, false⟩
      else if outcome.status = .failure && outcome.anomalyFingerprint = some targetFingerprint then
        ⟨.reproduces, "EXACT_ANOMALY_FINGERPRINT_MATCH".toList, true⟩
      else if outcome.status = .failure then
        ⟨.doesNotReproduce, "DIFFERENT_OR_NO_FINGERPRINT".toList, false⟩
      else ⟨.doesNotReproduce, "FAILURE_NOT_OBSERVED".toList, false⟩

/-- A call of the replay callback: its candidate, the state its guards were asked in, and what it
returned (nothing when it threw). -/
structure Invocation (W : Type) where
  sequence : List ActionOccurrence
  phase : ReplayPhase
  before : W
  returned : Option CandidateReplayOutcome

structure MinimizerState (W : Type) where
  replayCount : Nat
  candidateEvaluations : Nat
  invalidCandidateCount : Nat
  safetyRejectionCount : Nat
  reproductionCount : Nat
  reducedReplayInvocations : Nat
  evaluations : List CandidateEvaluation
  cache : List (JsString × EvaluatedCandidate)
  invocations : List (Invocation W)
  world : W

def MinimizerState.start {W : Type} (world : W) : MinimizerState W where
  replayCount := 0
  candidateEvaluations := 0
  invalidCandidateCount := 0
  safetyRejectionCount := 0
  reproductionCount := 0
  reducedReplayInvocations := 0
  evaluations := []
  cache := []
  invocations := []
  world := world

/-- `phase === 'REDUCED_CANDIDATE' ? 1 : 0`. -/
def ReplayPhase.reducedOne : ReplayPhase → Nat
  | .freshExactReplay => 0
  | .reducedCandidate => 1

def invalidOutcome (reason : Option GuardReason) (failure : Option ExecutorFailure) :
    CandidateReplayOutcome where
  status := .invalid
  anomalyFingerprint := none
  semanticFindingFingerprint := none
  semanticContractIdentity := none
  safety := zeroSafety
  invalidReason := reason
  executorFailure := failure
  routeClass := none

def unreplayed (candidate : List ActionOccurrence) (disposition : EvaluationDisposition)
    (reason : JsString) : CandidateEvaluation where
  sequence := actionIds candidate
  occurrenceOrdinals := occurrenceOrdinals candidate
  semanticFindingFingerprint := none
  semanticContractIdentity := none
  disposition := disposition
  reason := reason
  fingerprintMatch := false

def skippedCandidate (candidate : List ActionOccurrence) (reason : JsString) :
    EvaluatedCandidate where
  occurrenceSequence := candidate
  outcome := invalidOutcome (some .preconditionDivergence) none
  evaluation := unreplayed candidate .notEvaluatedBudget reason

def rejectedCandidate (candidate : List ActionOccurrence) (guard : CandidateGuardResult) :
    EvaluatedCandidate where
  occurrenceSequence := candidate
  outcome := invalidOutcome guard.reason none
  evaluation := unreplayed candidate .invalid
    ((guard.reason.map GuardReason.text).getD "CANDIDATE_GUARD_FAILED".toList)

section Evaluate

variable {W : Type} (options : MinimizationOptions W)

def observed (returned : Option CandidateReplayOutcome) : CandidateReplayOutcome :=
  normalizeExecutorOutcome (returned.getD (invalidOutcome none (some .executorThrow)))
    options.anomalyFingerprint

def replayedCandidate (candidate : List ActionOccurrence)
    (returned : Option CandidateReplayOutcome) : EvaluatedCandidate :=
  let outcome := observed options returned
  let classified := outcomeReason outcome options.anomalyFingerprint
  { occurrenceSequence := candidate
    outcome := outcome
    evaluation :=
      { sequence := actionIds candidate
        occurrenceOrdinals := occurrenceOrdinals candidate
        semanticFindingFingerprint := outcome.semanticFindingFingerprint
        semanticContractIdentity := outcome.semanticContractIdentity
        disposition := classified.disposition
        reason := classified.reason
        fingerprintMatch := classified.isMatch } }

def skip (candidate : List ActionOccurrence) (reason : JsString) (state : MinimizerState W) :
    EvaluatedCandidate × MinimizerState W :=
  let skipped := skippedCandidate candidate reason
  (skipped, { state with evaluations := state.evaluations ++ [skipped.evaluation] })

def store (candidate : List ActionOccurrence) (evaluated : EvaluatedCandidate)
    (state : MinimizerState W) : MinimizerState W :=
  { state with
    cache := mapSet (sequenceKey candidate) evaluated state.cache
    evaluations := state.evaluations ++ [evaluated.evaluation] }

def bookReplay (candidate : List ActionOccurrence) (phase : ReplayPhase) (before : W)
    (returned : Option CandidateReplayOutcome) (state : MinimizerState W) : MinimizerState W :=
  let evaluated := replayedCandidate options candidate returned
  let disposition := evaluated.evaluation.disposition
  let unsafeReplay := evaluated.outcome.status ≠ .invalid ∧ !allZeroSafety evaluated.outcome.safety
  store candidate evaluated
    { state with
      replayCount := state.replayCount + 1
      reducedReplayInvocations := state.reducedReplayInvocations + ReplayPhase.reducedOne phase
      safetyRejectionCount := state.safetyRejectionCount + if unsafeReplay then 1 else 0
      invalidCandidateCount := state.invalidCandidateCount +
        if disposition = .invalid then ReplayPhase.reducedOne phase else 0
      reproductionCount := state.reproductionCount + if disposition = .reproduces then 1 else 0
      invocations := state.invocations ++ [⟨candidate, phase, before, returned⟩] }

def replayCandidate (candidate : List ActionOccurrence) (phase : ReplayPhase) (before : W)
    (state : MinimizerState W) : EvaluatedCandidate × MinimizerState W :=
  let (returned, world) := options.replay state.world (candidate.map (·.action)) phase
  (replayedCandidate options candidate returned,
    bookReplay options candidate phase before returned { state with world := world })

def evaluateGuarded (candidate : List ActionOccurrence) (phase : ReplayPhase) (before : W)
    (guard : CandidateGuardResult) (state : MinimizerState W) :
    EvaluatedCandidate × MinimizerState W :=
  let counted : MinimizerState W :=
    { state with candidateEvaluations := state.candidateEvaluations + ReplayPhase.reducedOne phase }
  if !guard.valid then
    let rejected := rejectedCandidate candidate guard
    (rejected, store candidate rejected
      { counted with
        invalidCandidateCount := state.invalidCandidateCount + ReplayPhase.reducedOne phase })
  else if (JsNumber.ofNat state.replayCount).ge (budgetOf options).maxTotalReplays then
    skip candidate "TOTAL_REPLAY_BUDGET_EXHAUSTED".toList counted
  else replayCandidate options candidate phase before counted

def evaluate (candidate : List ActionOccurrence) (phase : ReplayPhase)
    (state : MinimizerState W) : Except JsString EvaluatedCandidate × MinimizerState W :=
  match state.cache.lookup (sequenceKey candidate) with
  | some cached => (.ok cached, state)
  | none =>
      if phase = .reducedCandidate && (JsNumber.ofNat state.candidateEvaluations).ge
          (budgetOf options).maxCandidateEvaluations then
        let (skipped, state) := skip candidate "BUDGET_EXHAUSTED".toList state
        (.ok skipped, state)
      else
        match guardSequence options state.world candidate with
        | (.error message, world) => (.error message, { state with world := world })
        | (.ok guard, world) =>
            let (evaluated, state) :=
              evaluateGuarded options candidate phase state.world guard { state with world := world }
            (.ok evaluated, state)

inductive PassEnd where
  | completed
  | exhausted
  | reproduced (candidate : List ActionOccurrence)

structure Pass where
  dispositions : List EvaluationDisposition
  ending : PassEnd

/-- Candidates are evaluated in order, up to the first one that the budget excludes or that
reproduces. -/
def evaluateEach : List (List ActionOccurrence) → MinimizerState W →
    Except JsString Pass × MinimizerState W
  | [], state => (.ok ⟨[], .completed⟩, state)
  | candidate :: rest, state =>
      match evaluate options candidate .reducedCandidate state with
      | (.error message, state) => (.error message, state)
      | (.ok evaluated, state) =>
          match evaluated.evaluation.disposition with
          | .notEvaluatedBudget => (.ok ⟨[.notEvaluatedBudget], .exhausted⟩, state)
          | .reproduces => (.ok ⟨[.reproduces], .reproduced candidate⟩, state)
          | disposition =>
              match evaluateEach rest state with
              | (.error message, state) => (.error message, state)
              | (.ok pass, state) => (.ok ⟨disposition :: pass.dispositions, pass.ending⟩, state)

structure Reduction where
  current : List ActionOccurrence
  granularity : Nat
  budgetExhausted : Bool
  reduced : Bool

def chunkCandidates (current : List ActionOccurrence) (granularity : Nat) :
    List (List ActionOccurrence) :=
  ((splitIntoChunks current granularity).map (withoutChunk current)).filter (!·.isEmpty)

def reduceTurn (run : Reduction × MinimizerState W) :
    Turn (Reduction × MinimizerState W) (Except JsString Reduction × MinimizerState W) :=
  let (reduction, state) := run
  if 1 < reduction.current.length && !reduction.budgetExhausted then
    match evaluateEach options (chunkCandidates reduction.current reduction.granularity) state with
    | (.error message, state) => .done (.error message, state)
    | (.ok pass, state) =>
        match pass.ending with
        | .exhausted => .again ({ reduction with budgetExhausted := true }, state)
        | .reproduced candidate =>
            .again ({ reduction with
              current := candidate
              granularity := max 2 (reduction.granularity - 1)
              reduced := true }, state)
        | .completed =>
            if reduction.current.length ≤ reduction.granularity then .done (.ok reduction, state)
            else
              .again ({ reduction with
                granularity := min reduction.current.length (reduction.granularity * 2) }, state)
  else .done (.ok reduction, state)

structure Audit where
  current : List ActionOccurrence
  changedInAudit : Bool
  finalPassDispositions : List EvaluationDisposition
  budgetExhausted : Bool
  reduced : Bool

def singleDeletions (current : List ActionOccurrence) : List (List ActionOccurrence) :=
  (List.range current.length).map current.eraseIdx

def auditTurn (run : Audit × MinimizerState W) :
    Turn (Audit × MinimizerState W) (Except JsString Audit × MinimizerState W) :=
  let (audit, state) := run
  if audit.changedInAudit && !audit.budgetExhausted && decide (1 < audit.current.length) then
    match evaluateEach options (singleDeletions audit.current) state with
    | (.error message, state) => .done (.error message, state)
    | (.ok pass, state) =>
        let audit := { audit with
          changedInAudit := false
          finalPassDispositions := pass.dispositions }
        match pass.ending with
        | .completed => .again (audit, state)
        | .exhausted => .again ({ audit with budgetExhausted := true }, state)
        | .reproduced candidate =>
            .again ({ audit with
              current := candidate
              changedInAudit := true
              reduced := true }, state)
  else .done (.ok audit, state)

/-- What `resultBase` is told besides the options and the counters of the run. -/
structure Conclusion where
  minimal : List ActionOccurrence
  fresh : FreshExactReplay
  guarantee : MinimalityGuarantee
  budgetExhausted : Bool
  status : MinimizationStatus
  evidenceClass : ReductionEvidenceClass

def resultBase (state : MinimizerState W) (conclusion : Conclusion) : MinimizationResult :=
  let reproduced := decide (conclusion.fresh = .reproduced)
  { schemaVersion := failureMinimizationVersion
    status := conclusion.status
    originalSequence := actionIds (occurrences options)
    minimalReproducingSequence := if reproduced then actionIds conclusion.minimal else []
    minimalReproducingOccurrenceOrdinals :=
      if reproduced then some (occurrenceOrdinals conclusion.minimal) else none
    removedActions :=
      if reproduced then removedActionIds (occurrences options) conclusion.minimal else []
    reproductionCount := state.reproductionCount
    anomalyFingerprint := options.anomalyFingerprint
    modelVersion := failureMinimizationVersion
    catalogVersion := options.catalogVersion
    sourceVersion := options.sourceVersion
    confidence := confidenceFor reproduced state.reproductionCount conclusion.guarantee
      conclusion.budgetExhausted
    minimalityGuarantee := if reproduced then conclusion.guarantee else .none
    reductionEvidenceClass := conclusion.evidenceClass
    budget := budgetOf options
    replayCount := state.replayCount
    candidateEvaluationCount :=
      (state.evaluations.filter (·.disposition ≠ .notEvaluatedBudget)).length -
        if 0 < state.evaluations.length then 1 else 0
    candidateEvaluations := state.evaluations
    invalidCandidateCount := state.invalidCandidateCount
    safetyRejectionCount := state.safetyRejectionCount
    freshExactReplay := conclusion.fresh }

structure ReductionEvidence where
  freshReproduced : Bool
  originalLength : Nat
  finalLength : Nat
  budgetExhausted : Bool
  genuineReducedNonRepro : Bool
  invalidReducedCandidate : Bool
  survivorDeletionsFullyExercised : Bool
  exercisedReducedReplayCount : Nat

def classifyReductionEvidence (input : ReductionEvidence) : ReductionEvidenceClass :=
  if !input.freshReproduced then .noReducibleCandidate
  else if input.budgetExhausted then .minimalityNotProven
  else if input.originalLength = 1 || input.finalLength = 1 then .noReducibleCandidate
  else if input.genuineReducedNonRepro then
    if !input.survivorDeletionsFullyExercised then .minimalityNotProven
    else if input.exercisedReducedReplayCount < 1 then .minimalityNotProven
    else .minimalityProven
  else if input.invalidReducedCandidate then .reductionPreconditionUnavailable
  else .minimalityNotProven

def survivorDeletionsFullyExercised (audit : Audit) : Bool :=
  decide (audit.current.length = 1) ||
    (decide (audit.finalPassDispositions.length = audit.current.length) &&
      audit.finalPassDispositions.all (· = .doesNotReproduce))

def concludeAudit (audit : Audit) (state : MinimizerState W) : MinimizationResult :=
  let reducedEvaluations := state.evaluations.drop 1
  resultBase options state
    { minimal := audit.current
      fresh := .reproduced
      guarantee :=
        if !audit.budgetExhausted && survivorDeletionsFullyExercised audit then .oneMinimal
        else .boundedMinimal
      budgetExhausted := audit.budgetExhausted
      status :=
        if audit.budgetExhausted then .boundedBudgetExhausted
        else if audit.reduced then .minimized
        else .unchanged
      evidenceClass := classifyReductionEvidence
        { freshReproduced := true
          originalLength := (occurrences options).length
          finalLength := audit.current.length
          budgetExhausted := audit.budgetExhausted
          genuineReducedNonRepro :=
            reducedEvaluations.any (·.disposition = .doesNotReproduce)
          invalidReducedCandidate := reducedEvaluations.any (·.disposition = .invalid)
          survivorDeletionsFullyExercised := survivorDeletionsFullyExercised audit
          exercisedReducedReplayCount := state.reducedReplayInvocations } }

abbrev Minimized (W : Type) := Except JsString MinimizationResult × MinimizerState W

def minimizeReproduced (fuel : Nat) (state : MinimizerState W) : Option (Minimized W) :=
  let original := occurrences options
  match loop (reduceTurn options) fuel (⟨original, min 2 original.length, false, false⟩, state) with
  | none => none
  | some (.error message, state) => some (.error message, state)
  | some (.ok reduction, state) =>
      let audit : Audit :=
        ⟨reduction.current, true, [], reduction.budgetExhausted, reduction.reduced⟩
      match loop (auditTurn options) fuel (audit, state) with
      | none => none
      | some (.error message, state) => some (.error message, state)
      | some (.ok audit, state) => some (.ok (concludeAudit options audit state), state)

def unreproduced (disposition : EvaluationDisposition) (state : MinimizerState W) :
    MinimizationResult :=
  resultBase options state
    { minimal := occurrences options
      fresh := if disposition = .invalid then .invalid else .notReproduced
      guarantee := .none
      budgetExhausted := false
      status := .noReproduction
      evidenceClass := .noReducibleCandidate }

def invalidOriginal (state : MinimizerState W) : MinimizationResult :=
  resultBase options { state with invalidCandidateCount := 1 }
    { minimal := occurrences options
      fresh := .invalid
      guarantee := .none
      budgetExhausted := false
      status := .invalidOriginal
      evidenceClass := .reductionPreconditionUnavailable }

def budgetIsInvalid (budget : MinimizationBudget) : Bool :=
  budget.maxCandidateEvaluations.lt (.ofNat 0) || budget.maxTotalReplays.lt (.ofNat 1) ||
    budget.maxTotalReplays.lt budget.maxCandidateEvaluations

def minimizeFailure (fuel : Nat) (world : W) : Option (Minimized W) :=
  if budgetIsInvalid (budgetOf options) then
    some (.error "MINIMIZATION_BUDGET_INVALID".toList, .start world)
  else if options.originalSequence.isEmpty then
    some (.error "MINIMIZATION_ORIGINAL_SEQUENCE_EMPTY".toList, .start world)
  else
    match guardSequence options world (occurrences options) with
    | (.error message, world) => some (.error message, .start world)
    | (.ok guard, world) =>
        if !guard.valid then some (.ok (invalidOriginal options (.start world)), .start world)
        else
          match evaluate options (occurrences options) .freshExactReplay (.start world) with
          | (.error message, state) => some (.error message, state)
          | (.ok fresh, state) =>
              if fresh.evaluation.disposition ≠ .reproduces then
                some (.ok (unreproduced options fresh.evaluation.disposition state), state)
              else minimizeReproduced options fuel state

end Evaluate

end NightWatch.Triage.Minimizer
