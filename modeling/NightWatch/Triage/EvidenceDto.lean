import NightWatch.Lib.Guard
import NightWatch.Lib.JsRuntime
import NightWatch.Triage.Minimizer

namespace NightWatch.Triage.EvidenceDto

open Lib.Guard Lib.JsText Lib.JsData Lib.JsRuntime Triage.Types

def minimalityEvidenceVersion : JsString := "nightwatch.minimality-evidence.private.v1".toList

inductive MinimalityProbeOutcome where
  | pass
  | failure
  | invalid
  | preconditionDivergence
  | unsupported
  | notReduced
  deriving DecidableEq

inductive MinimalityReplayPath where
  | exact
  | reduced
  deriving DecidableEq

structure MinimalityDeletionDisposition where
  actionId : JsString
  probeOutcome : MinimalityProbeOutcome
  replayPath : MinimalityReplayPath
  deriving DecidableEq

structure MinimalityBudgetConsumption where
  dimension : JsString
  offered : JsNumber
  consumed : JsNumber
  deriving DecidableEq

structure MinimalityEvidence where
  schemaVersion : JsString
  evidenceClass : ReductionEvidenceClass
  failureMinimizationVersion : JsString
  reductionAttempted : Bool
  exercisedReducedReplayCount : JsNumber
  survivorDeletions : List MinimalityDeletionDisposition
  budget : List MinimalityBudgetConsumption
  survivorIdentityDigest : JsString
  deriving DecidableEq

structure EvidenceFields where
  evidenceClass : ReductionEvidenceClass
  reductionAttempted : Bool
  exercisedReducedReplayCount : JsNumber
  survivorDeletions : List MinimalityDeletionDisposition
  budget : List MinimalityBudgetConsumption
  survivorActionIds : List JsString

def isBoundedInt (value : JsNumber) : Bool := value.isInteger && value.ge (.ofNat 0)

def probeOutcomeFromDisposition (disposition : EvaluationDisposition) (reason : JsString) :
    MinimalityProbeOutcome :=
  match disposition with
  | .reproduces => .pass
  | .doesNotReproduce => .failure
  | .invalid => if reason = "PRECONDITION_DIVERGENCE".toList then .preconditionDivergence else .invalid
  | .notEvaluatedBudget => .notReduced

def evidenceError (reason : JsString) : JsString := "MINIMALITY_EVIDENCE_INVALID:".toList ++ reason

def refuseIf (condition : Bool) (reason : JsString) : Except JsString Unit :=
  if condition then .error (evidenceError reason) else .ok ()

def checkDeletion (deletion : MinimalityDeletionDisposition) : Except JsString Unit :=
  refuseIf deletion.actionId.isEmpty "DELETION_ACTION_ID_REQUIRED".toList

def checkConsumption (entry : MinimalityBudgetConsumption) : Except JsString Unit := do
  refuseIf entry.dimension.isEmpty "BUDGET_DIMENSION_REQUIRED".toList
  refuseIf (!isBoundedInt entry.offered || !isBoundedInt entry.consumed ||
    entry.offered.lt entry.consumed) "BUDGET_ACCOUNTING_INCOHERENT".toList

def provenMarkersPresent (fields : EvidenceFields) : Bool :=
  fields.reductionAttempted && fields.exercisedReducedReplayCount.ge (.ofNat 1) &&
    fields.survivorDeletions.any (·.replayPath = .reduced)

variable (rt : Runtime) (sha256Hex : JsString → JsString)

/-- `stableJsonSorted` of a list of texts. -/
def stableJsonTexts (texts : List JsString) : JsString :=
  '[' :: join ',' (texts.map fun text => rt.jsonStringify (.str text)) ++ [']']

def prefixedDigest24 (name value : JsString) : JsString :=
  name ++ ":sha256:".toList ++ (sha256Hex (rt.jsonStringify (.str value))).take 24

def buildMinimalityEvidenceDto (fields : EvidenceFields) : Except JsString MinimalityEvidence := do
  forEach checkDeletion fields.survivorDeletions
  forEach checkConsumption fields.budget
  refuseIf (!isBoundedInt fields.exercisedReducedReplayCount) "EXERCISED_COUNT_INVALID".toList
  refuseIf (decide (fields.evidenceClass = .minimalityProven) != provenMarkersPresent fields)
    ("PROVEN_MARKERS_MISMATCH_CLASS:".toList ++ fields.evidenceClass.text)
  refuseIf (fields.evidenceClass = .minimalityProven &&
    fields.exercisedReducedReplayCount.lt (.ofNat 1)) "ZERO_REDUCTION_CANNOT_BE_PROVEN".toList
  .ok
    { schemaVersion := minimalityEvidenceVersion
      evidenceClass := fields.evidenceClass
      failureMinimizationVersion := failureMinimizationVersion
      reductionAttempted := fields.reductionAttempted
      exercisedReducedReplayCount := fields.exercisedReducedReplayCount
      survivorDeletions := fields.survivorDeletions
      budget := fields.budget
      survivorIdentityDigest := prefixedDigest24 rt sha256Hex "mne".toList
        (sha256Hex (stableJsonTexts rt fields.survivorActionIds)) }

section Reconstruction

variable (result : MinimizationResult)

/-- The records of the survivor without its action at `index`. -/
def deletionMatches (index : Nat) : List CandidateEvaluation :=
  result.candidateEvaluations.filter
    (·.sequence = result.minimalReproducingSequence.eraseIdx index)

def survivorDeletion (index : Nat) : Except JsString (Option MinimalityDeletionDisposition) :=
  let found := deletionMatches result index
  if 1 < found.length && result.reductionEvidenceClass = .minimalityProven then
    .error (evidenceError "AMBIGUOUS_SURVIVOR_DELETION".toList)
  else
    match found with
    | [record] =>
        .ok ((result.minimalReproducingSequence[index]?).map fun actionId =>
          ⟨actionId, probeOutcomeFromDisposition record.disposition record.reason, .reduced⟩)
    | _ => .ok none

def collectDeletions : List Nat → Except JsString (List MinimalityDeletionDisposition)
  | [] => .ok []
  | index :: rest => do
      let deletion ← survivorDeletion result index
      let deletions ← collectDeletions rest
      .ok (deletion.toList ++ deletions)

def survivorDeletions : Except JsString (List MinimalityDeletionDisposition) :=
  if 1 < result.minimalReproducingSequence.length then
    collectDeletions result (List.range result.minimalReproducingSequence.length)
  else .ok []

def repeatsAction (survivorIds : List JsString) : Bool :=
  survivorIds.zipIdx.any fun entry => survivorIds.idxOf entry.1 ≠ entry.2

def exercisedCount : Nat :=
  if result.status ≠ .invalidOriginal then result.replayCount - 1 else 0

def reductionAttempted : Bool :=
  (result.candidateEvaluations.drop 1).any (·.disposition ≠ .notEvaluatedBudget)

def buildMinimalityEvidence : Except JsString MinimalityEvidence := do
  let survivorIds := result.minimalReproducingSequence
  refuseIf (repeatsAction survivorIds && result.reductionEvidenceClass = .minimalityProven)
    "AMBIGUOUS_SURVIVOR_OCCURRENCE".toList
  let deletions ← survivorDeletions result
  buildMinimalityEvidenceDto rt sha256Hex
    { evidenceClass := result.reductionEvidenceClass
      reductionAttempted := reductionAttempted result
      exercisedReducedReplayCount := .ofNat (exercisedCount result)
      survivorDeletions := deletions
      budget :=
        [⟨"maxCandidateEvaluations".toList, result.budget.maxCandidateEvaluations,
            .ofNat result.candidateEvaluationCount⟩,
          ⟨"maxTotalReplays".toList, result.budget.maxTotalReplays, .ofNat result.replayCount⟩]
      survivorActionIds := survivorIds }

end Reconstruction

end NightWatch.Triage.EvidenceDto
