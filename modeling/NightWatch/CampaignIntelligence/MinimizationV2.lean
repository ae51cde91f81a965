import NightWatch.Lib.Guard
import NightWatch.Triage.Minimizer

/-!
The reducer of campaign intelligence: chunks are removed, then single actions, each candidate
being judged by a probe that the caller supplies, within a budget of probes.
-/

namespace NightWatch.CampaignIntelligence.MinimizationV2

open Lib.JsText Lib.Guard Lib.Loop

inductive MinimalityProofKind where
  | oneStepLocalMinimum
  | chunkAndStepFixedPoint
  | semanticFixedPoint
  | notProvenMinimal
  deriving DecidableEq

structure ReductionAction where
  actionId : JsString
  ordinal : ℤ
  dependencyKey : Option JsString
  deriving DecidableEq

structure ReductionDependencyEdge where
  prerequisiteOrdinal : ℤ
  dependentOrdinal : ℤ
  deriving DecidableEq

inductive ReductionProbeOutcome where
  | reproduces
  | doesNotReproduce
  | preconditionDivergence
  | executorFailure
  | invalid
  deriving DecidableEq

structure ReductionProbeResult where
  valid : Bool
  preservesFinding : Bool
  outcome : ReductionProbeOutcome
  reason : JsString
  deriving DecidableEq

structure MinimizationV2Evaluation where
  retainedOrdinals : List ℤ
  retainedActionIds : List JsString
  outcome : ReductionProbeOutcome
  preservesFinding : Bool
  valid : Bool
  reason : JsString

structure MinimizationV2Core where
  originalOrdinals : List ℤ
  minimalOrdinals : List ℤ
  removedOrdinals : List ℤ
  minimalActionIds : List JsString
  originalReproduced : Bool
  proof : MinimalityProofKind
  probesAttempted : Nat
  cacheHits : Nat
  budgetExhausted : Bool
  fixedPointPasses : Nat
  dependencyEdges : List ReductionDependencyEdge
  evaluations : List MinimizationV2Evaluation
  reasons : List JsString

structure MinimizationV2Result extends MinimizationV2Core where
  deterministicDigest : JsString

/-- The probe may depend on what happened before, and throws where it returns nothing. -/
structure MinimizationInput (W : Type) where
  original : List ReductionAction
  maxProbes : ℤ
  semanticIdentityBound : Bool
  dependencies : Option (List ReductionDependencyEdge)
  probe : W → List ReductionAction → Option ReductionProbeResult × W

/-- `SAFE_ID_RE`. -/
def isSafeId : JsString → Bool
  | [] => false
  | c :: rest =>
      c.isAlphanum && decide (rest.length ≤ 199) &&
        rest.all fun d => d.isAlphanum || d ∈ ['_', '.', ':', '/', '-']

def invalid {α : Type} (reason : String) : Except JsString α :=
  .error ("MINIMIZATION_V2_INVALID:" ++ reason).toList

def require (condition : Bool) (reason : String) : Except JsString Unit :=
  if condition then .ok () else invalid reason

def validateAction (action : ReductionAction) : Except JsString Unit := do
  require (isSafeId action.actionId) "ACTION_ID"
  require (action.dependencyKey.all isSafeId) "DEPENDENCY_KEY"
  require (decide (0 ≤ action.ordinal ∧ action.ordinal ≤ 999999)) "ORDINAL"

def validateDependency (ordinals : List ℤ) (edge : ReductionDependencyEdge) :
    Except JsString Unit := do
  require (decide (0 ≤ edge.prerequisiteOrdinal ∧ edge.prerequisiteOrdinal ∈ ordinals))
    "DEPENDENCY_PREREQUISITE"
  require (decide (0 ≤ edge.dependentOrdinal ∧ edge.dependentOrdinal ∈ ordinals))
    "DEPENDENCY_DEPENDENT"
  require (decide (edge.prerequisiteOrdinal ≠ edge.dependentOrdinal)) "DEPENDENCY_SELF"

def edgeLe (left right : ReductionDependencyEdge) : Bool :=
  decide (left.prerequisiteOrdinal < right.prerequisiteOrdinal ∨
    left.prerequisiteOrdinal = right.prerequisiteOrdinal ∧
      left.dependentOrdinal ≤ right.dependentOrdinal)

def validateInput {W : Type} (input : MinimizationInput W) :
    Except JsString (List ReductionDependencyEdge) := do
  require (decide (input.original ≠ [] ∧ input.original.length ≤ 128)) "ORIGINAL_SEQUENCE"
  require (decide (1 ≤ input.maxProbes ∧ input.maxProbes ≤ 4096)) "MAX_PROBES"
  forEach validateAction input.original
  let ordinals := input.original.map (·.ordinal)
  require (decide ordinals.Nodup) "DUPLICATE_ORDINAL"
  let dependencyEdges := (input.dependencies.getD []).mergeSort edgeLe
  forEach (validateDependency ordinals) dependencyEdges
  require (decide dependencyEdges.Nodup) "DUPLICATE_DEPENDENCY"
  return dependencyEdges

def sequenceKey (sequence : List ReductionAction) : JsString :=
  join '>' (sequence.map fun action => decimal action.ordinal.toNat ++ ':' :: action.actionId)

def splitChunks (values : List ReductionAction) (count : Nat) : List (List ReductionAction) :=
  Triage.Minimizer.splitIntoChunks values count

def withoutChunk (values chunk : List ReductionAction) : List ReductionAction :=
  values.filter (· ∉ chunk)

section Evaluation

structure Run (W : Type) where
  evaluations : List MinimizationV2Evaluation
  cache : List (JsString × ReductionProbeResult)
  probesAttempted : Nat
  cacheHits : Nat
  budgetExhausted : Bool
  world : W
  probed : List (List ReductionAction × Option ReductionProbeResult)

variable {W : Type}

def Run.start (world : W) : Run W := ⟨[], [], 0, 0, false, world, []⟩

def record (sequence : List ReductionAction) (result : ReductionProbeResult) :
    MinimizationV2Evaluation where
  retainedOrdinals := sequence.map (·.ordinal)
  retainedActionIds := sequence.map (·.actionId)
  outcome := result.outcome
  preservesFinding := result.preservesFinding
  valid := result.valid
  reason := result.reason

def dependencySatisfied (dependencyEdges : List ReductionDependencyEdge)
    (sequence : List ReductionAction) : Bool :=
  let retained := sequence.map (·.ordinal)
  dependencyEdges.all fun edge =>
    decide (edge.dependentOrdinal ∉ retained ∨ edge.prerequisiteOrdinal ∈ retained)

def exhausted : ReductionProbeResult := ⟨false, false, .invalid, "BUDGET_EXHAUSTED".toList⟩

def dependencyFailure : ReductionProbeResult :=
  ⟨true, false, .preconditionDivergence, "DEPENDENCY_PRECONDITION_REQUIRED".toList⟩

def executorFailure : ReductionProbeResult :=
  ⟨false, false, .executorFailure, "EXECUTOR_FAILURE".toList⟩

/-- `/^[A-Z_]{1,80}$/`. -/
def isReason (s : JsString) : Bool := upTo 80 (fun c => c.isUpper || c == '_') s

def Run.store (run : Run W) (sequence : List ReductionAction) (result : ReductionProbeResult) :
    Run W :=
  { run with
    cache := (sequenceKey sequence, result) :: run.cache
    evaluations := run.evaluations ++ [record sequence result] }

def Run.asked (run : Run W) (sequence : List ReductionAction)
    (reply : Option ReductionProbeResult × W) : Run W :=
  { run with
    probesAttempted := run.probesAttempted + 1
    world := reply.2
    probed := run.probed ++ [(sequence, reply.1)] }

variable (input : MinimizationInput W) (dependencyEdges : List ReductionDependencyEdge)

def evaluate (run : Run W) (sequence : List ReductionAction) :
    Except JsString ReductionProbeResult × Run W :=
  match run.cache.lookup (sequenceKey sequence) with
  | some cached => (.ok cached, { run with cacheHits := run.cacheHits + 1 })
  | none =>
      if input.maxProbes ≤ run.probesAttempted then
        (.ok exhausted,
          { run with
            budgetExhausted := true
            evaluations := run.evaluations ++ [record sequence exhausted] })
      else if !dependencySatisfied dependencyEdges sequence then
        (.ok dependencyFailure, run.store sequence dependencyFailure)
      else
        let reply := input.probe run.world sequence
        let run := run.asked sequence reply
        let result := reply.1.getD executorFailure
        if !isReason result.reason then (invalid "PROBE_RESULT", run)
        else (.ok result, run.store sequence result)

structure Pass where
  accepted : Option (List ReductionAction)
  results : List ReductionProbeResult

def tryEach : List (List ReductionAction) → Run W → Except JsString Pass × Run W
  | [], run => (.ok ⟨none, []⟩, run)
  | candidate :: rest, run =>
      match evaluate input dependencyEdges run candidate with
      | (.error reason, run) => (.error reason, run)
      | (.ok result, run) =>
          if result.valid && result.preservesFinding then (.ok ⟨some candidate, [result]⟩, run)
          else if run.budgetExhausted then (.ok ⟨none, [result]⟩, run)
          else
            match tryEach rest run with
            | (.error reason, run) => (.error reason, run)
            | (.ok pass, run) => (.ok { pass with results := result :: pass.results }, run)

def chunkCandidates (current : List ReductionAction) (granularity : Nat) :
    List (List ReductionAction) :=
  ((splitChunks current granularity).map (withoutChunk current)).filter (· ≠ [])

def deletions (current : List ReductionAction) : List (List ReductionAction) :=
  (List.range current.length).map current.eraseIdx

structure ChunkSearch (W : Type) where
  run : Run W
  current : List ReductionAction
  granularity : Nat

abbrev Ended (W : Type) := Except JsString (List ReductionAction × Bool) × Run W

def chunkTurn (search : ChunkSearch W) : Turn (ChunkSearch W) (Ended W) :=
  if search.current.length ≤ 1 || search.run.budgetExhausted then
    .done (.ok (search.current, false), search.run)
  else
    match tryEach input dependencyEdges (chunkCandidates search.current search.granularity)
        search.run with
    | (.error reason, run) => .done (.error reason, run)
    | (.ok pass, run) =>
        if run.budgetExhausted then
          .done (.ok (pass.accepted.getD search.current, false), run)
        else
          match pass.accepted with
          | some candidate => .again ⟨run, candidate, max 2 (search.granularity - 1)⟩
          | none =>
              if search.current.length ≤ search.granularity then
                .done (.ok (search.current, true), run)
              else
                .again ⟨run, search.current, min search.current.length (search.granularity * 2)⟩

structure StepSearch (W : Type) where
  run : Run W
  current : List ReductionAction
  fixedPointPasses : Nat

abbrev StepEnded (W : Type) := Except JsString (List ReductionAction × Bool × Nat) × Run W

def stepTurn (search : StepSearch W) : Turn (StepSearch W) (StepEnded W) :=
  if search.run.budgetExhausted || search.current.length ≤ 1 then
    .done (.ok (search.current, false, search.fixedPointPasses), search.run)
  else
    match tryEach input dependencyEdges (deletions search.current) search.run with
    | (.error reason, run) => .done (.error reason, run)
    | (.ok pass, run) =>
        match pass.accepted with
        | some candidate => .again ⟨run, candidate, search.fixedPointPasses + 1⟩
        | none =>
            let oneStepProof := !run.budgetExhausted &&
              decide (pass.results.length = search.current.length) &&
              pass.results.all fun result => result.valid && !result.preservesFinding
            .done (.ok (search.current, oneStepProof, search.fixedPointPasses + 1), run)

end Evaluation

section Minimization

variable {W : Type} (safeCampaignDigest : MinimizationV2Core → JsString)
  (input : MinimizationInput W) (dependencyEdges : List ReductionDependencyEdge)

def sealed (core : MinimizationV2Core) : MinimizationV2Result :=
  { core with deterministicDigest := safeCampaignDigest core }

def unreproduced (run : Run W) (fresh : ReductionProbeResult) : MinimizationV2Core where
  originalOrdinals := input.original.map (·.ordinal)
  minimalOrdinals := []
  removedOrdinals := []
  minimalActionIds := []
  originalReproduced := false
  proof := .notProvenMinimal
  probesAttempted := run.probesAttempted
  cacheHits := run.cacheHits
  budgetExhausted := run.budgetExhausted
  fixedPointPasses := 0
  dependencyEdges
  evaluations := run.evaluations
  reasons := [fresh.reason]

def proofOf (run : Run W) (chunkSearchComplete oneStepProof : Bool) : MinimalityProofKind :=
  if run.budgetExhausted || !chunkSearchComplete || !oneStepProof then .notProvenMinimal
  else if input.semanticIdentityBound then .semanticFixedPoint
  else .chunkAndStepFixedPoint

def concluded (run : Run W) (current : List ReductionAction) (fixedPointPasses : Nat)
    (chunkSearchComplete oneStepProof : Bool) : MinimizationV2Core where
  originalOrdinals := input.original.map (·.ordinal)
  minimalOrdinals := current.map (·.ordinal)
  removedOrdinals := (input.original.map (·.ordinal)).filter (· ∉ current.map (·.ordinal))
  minimalActionIds := current.map (·.actionId)
  originalReproduced := true
  proof := proofOf input run chunkSearchComplete oneStepProof
  probesAttempted := run.probesAttempted
  cacheHits := run.cacheHits
  budgetExhausted := run.budgetExhausted
  fixedPointPasses
  dependencyEdges
  evaluations := run.evaluations
  reasons :=
    if proofOf input run chunkSearchComplete oneStepProof = .notProvenMinimal then
      [if run.budgetExhausted then "BUDGET_EXHAUSTED".toList
        else "UNEXERCISED_OR_INVALID_REDUCTION".toList]
    else ["ALL_TESTED_REDUCTIONS_DID_NOT_PRESERVE_FINDING".toList]

def turns (length : Nat) : Nat := (length + 1) * (length + 1) + 1

/-- Both searches, once the original sequence has preserved the finding; `none` is a search out of
turns. -/
def reduce (run : Run W) : Option (Except JsString MinimizationV2Core × Run W) :=
  let length := input.original.length
  (loop (chunkTurn input dependencyEdges) (turns length) ⟨run, input.original, min 2 length⟩).bind
    fun chunked =>
      match chunked with
      | (.error reason, run) => some (.error reason, run)
      | (.ok (current, complete), run) =>
          let chunkSearchComplete := if current.length ≤ 1 then !run.budgetExhausted else complete
          (loop (stepTurn input dependencyEdges) (turns length) ⟨run, current, 0⟩).map fun ended =>
            match ended with
            | (.error reason, run) => (.error reason, run)
            | (.ok (current, proven, fixedPointPasses), run) =>
                let oneStepProof :=
                  proven || decide (current.length = 1) && !run.budgetExhausted
                (.ok (concluded input dependencyEdges run current fixedPointPasses
                  chunkSearchComplete oneStepProof), run)

def minimizeSequenceV2 (world : W) : Option (Except JsString MinimizationV2Result × Run W) :=
  match validateInput input with
  | .error reason => some (.error reason, .start world)
  | .ok dependencyEdges =>
      match evaluate input dependencyEdges (.start world) input.original with
      | (.error reason, run) => some (.error reason, run)
      | (.ok fresh, run) =>
          if !fresh.valid || !fresh.preservesFinding then
            some (.ok (sealed safeCampaignDigest (unreproduced input dependencyEdges run fresh)), run)
          else
            (reduce input dependencyEdges run).map fun ended =>
              (ended.1.map (sealed safeCampaignDigest), ended.2)

end Minimization

end NightWatch.CampaignIntelligence.MinimizationV2
