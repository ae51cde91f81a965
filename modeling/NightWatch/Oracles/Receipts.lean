import NightWatch.Lib.Guard
import NightWatch.Oracles.Expectations

namespace NightWatch.Oracles.Receipts

open Lib.JsText Lib.JsData Lib.JsRuntime Lib.Guard Oracles.Invariants Oracles.Semantic
  Oracles.Expectations

inductive SemanticReceiptOutcome where
  | pass
  | anomaly
  | notApplicable
  | noExpectation
  | expectationSourceStale
  | expectationSourceUnavailable
  | invalidInput
  | projectionLimitExceeded
  | internalError
  | partialCoverage
  deriving DecidableEq

inductive SemanticEvidenceAcceptanceClass where
  | localSynthetic
  | containedDev
  deriving DecidableEq

inductive ReceiptVersion where
  | v1
  | v2
  deriving DecidableEq

structure SemanticReceiptInput where
  oracleId : JsString
  outcome : SemanticReceiptOutcome
  acceptanceClass : Option SemanticEvidenceAcceptanceClass := none
  targetId : Option JsString := none
  expectationId : Option JsString := none
  sourceProvenance : Option SourceProvenance := none
  projectionDigests : List JsString := []
  invariantTotal : Nat := 0
  invariantPassCount : Nat := 0
  invariantNaCount : Nat := 0
  invariantViolationCount : Nat := 0
  findingCount : Nat := 0
  journeyId : Option JsString := none
  stepId : Option JsString := none
  operationId : Option JsString := none
  coverageState : Option CoverageState := none
  inspectedItemCount : Option Nat := none
  violatingItemCount : Option Nat := none

structure SemanticEvaluationReceipt extends SemanticReceiptInput where
  schemaVersion : ReceiptVersion
  receiptId : JsString

section Validation

inductive ReceiptError where
  | oracleId
  | receiptId
  | targetId
  | expectationId
  | journeyId
  | stepId
  | operationId
  | projectionDigest
  | count
  | countSum
  | violationsWithoutAnomaly
  | findingsWithoutAnomaly
  | anomalyWithoutFinding
  | noExpectationWithExpectationId
  | provenanceWithoutExpectation
  | partialCoverageRequiresCoverageState
  | partialCoverageViolations
  | partialCoverageFindings
  | passWithPartialCoverage
  | violatingExceedsInspected
  | violationRequiresViolatingCount
  | fullPassViolations
  | emptyRequiresZeroInspected
  | v1CoverageFields
  | v1PartialCoverage
  | v1AcceptanceClass

def isBoundedId (id : JsString) : Bool := id ≠ [] && utf16Length id ≤ 200

def maxReceiptCount : Nat := 1000000

variable (receipt : SemanticEvaluationReceipt)

def identityRefusals : List (Bool × ReceiptError) :=
  [(!isPlainId receipt.oracleId, .oracleId),
    (!isDigestId "receipt" receipt.receiptId, .receiptId),
    (!receipt.targetId.all isBoundedId, .targetId),
    (!receipt.expectationId.all isBoundedId, .expectationId),
    (!receipt.journeyId.all isBoundedId, .journeyId),
    (!receipt.stepId.all isBoundedId, .stepId),
    (!receipt.operationId.all isBoundedId, .operationId),
    (!receipt.projectionDigests.all (isDigestId "proj"), .projectionDigest)]

def receiptCounts : List Nat :=
  [receipt.invariantTotal, receipt.invariantPassCount, receipt.invariantNaCount,
    receipt.invariantViolationCount, receipt.findingCount]

def countRefusals : List (Bool × ReceiptError) :=
  [((receiptCounts receipt).any fun count => maxReceiptCount < count, .count),
    (receipt.invariantPassCount + receipt.invariantNaCount + receipt.invariantViolationCount ≠
      receipt.invariantTotal, .countSum)]

def outcomeRefusals : List (Bool × ReceiptError) :=
  [(receipt.outcome ≠ .anomaly && receipt.invariantViolationCount ≠ 0, .violationsWithoutAnomaly),
    (receipt.outcome ≠ .anomaly && receipt.findingCount ≠ 0, .findingsWithoutAnomaly),
    (receipt.outcome = .anomaly && receipt.findingCount = 0, .anomalyWithoutFinding),
    (receipt.outcome = .noExpectation && receipt.expectationId.isSome,
      .noExpectationWithExpectationId),
    (receipt.sourceProvenance.isSome && receipt.expectationId.isNone,
      .provenanceWithoutExpectation)]

def coverageRefusals : List (Bool × ReceiptError) :=
  [(receipt.outcome = .partialCoverage &&
      receipt.coverageState ≠ some .partialCoverageNoViolation,
      .partialCoverageRequiresCoverageState),
    (receipt.outcome = .partialCoverage && receipt.invariantViolationCount ≠ 0,
      .partialCoverageViolations),
    (receipt.outcome = .partialCoverage && receipt.findingCount ≠ 0, .partialCoverageFindings),
    (receipt.outcome = .pass && receipt.coverageState = some .partialCoverageNoViolation,
      .passWithPartialCoverage),
    (receipt.violatingItemCount.any fun violating =>
      receipt.inspectedItemCount.any fun inspected => inspected < violating,
      .violatingExceedsInspected),
    (receipt.coverageState = some .violation && receipt.violatingItemCount.all fun n => n < 1,
      .violationRequiresViolatingCount),
    (receipt.coverageState = some .fullyEvaluatedPass &&
      receipt.violatingItemCount.any fun n => n ≠ 0, .fullPassViolations),
    (receipt.coverageState = some .emptyNotApplicable &&
      receipt.inspectedItemCount.any fun n => n ≠ 0, .emptyRequiresZeroInspected),
    (receipt.coverageState = some .partialCoverageNoViolation &&
      receipt.violatingItemCount.any fun n => n ≠ 0, .partialCoverageViolations)]

def versionRefusals : List (Bool × ReceiptError) :=
  [(receipt.schemaVersion = .v1 && (receipt.coverageState.isSome ||
      receipt.inspectedItemCount.isSome || receipt.violatingItemCount.isSome), .v1CoverageFields),
    (receipt.schemaVersion = .v1 && receipt.outcome = .partialCoverage, .v1PartialCoverage),
    (receipt.schemaVersion = .v1 && receipt.acceptanceClass.isSome, .v1AcceptanceClass)]

def refusals : List (Bool × ReceiptError) :=
  identityRefusals receipt ++ countRefusals receipt ++ outcomeRefusals receipt ++
    coverageRefusals receipt ++ versionRefusals receipt

def refuse (refusal : Bool × ReceiptError) : Except ReceiptError Unit :=
  if refusal.1 then .error refusal.2 else .ok ()

def validateSemanticEvaluationReceipt : Except ReceiptError Unit :=
  forEach refuse (refusals receipt)

variable {receipt}

theorem refuse_eq_ok {refusal : Bool × ReceiptError} :
    refuse refusal = .ok () ↔ refusal.1 = false := by
  rw [refuse]
  cases refusal.1 with
  | false => simp
  | true => simp

theorem validate_eq_ok : validateSemanticEvaluationReceipt receipt = .ok () ↔
    ∀ refusal ∈ refusals receipt, refusal.1 = false := by
  rw [validateSemanticEvaluationReceipt, forEach_eq_ok]
  simp only [refuse_eq_ok]

theorem countSum_of_accepted (h : validateSemanticEvaluationReceipt receipt = .ok ()) :
    receipt.invariantPassCount + receipt.invariantNaCount + receipt.invariantViolationCount =
      receipt.invariantTotal := by
  have hall := validate_eq_ok.mp h
  simp only [refusals, List.forall_mem_append, countRefusals, List.forall_mem_cons] at hall
  simpa using hall.1.1.1.2.2.1

end Validation

section Acceptance

/-- The texts and digests of a receipt. -/
structure Identified (receipt : SemanticEvaluationReceipt) : Prop where
  oracleId : isPlainId receipt.oracleId = true
  receiptId : isDigestId "receipt" receipt.receiptId = true
  targetId : receipt.targetId.all isBoundedId = true
  expectationId : receipt.expectationId.all isBoundedId = true
  journeyId : receipt.journeyId.all isBoundedId = true
  stepId : receipt.stepId.all isBoundedId = true
  operationId : receipt.operationId.all isBoundedId = true
  projectionDigests : receipt.projectionDigests.all (isDigestId "proj") = true

/-- The counts of a receipt under its outcome. -/
structure Counted (receipt : SemanticEvaluationReceipt) : Prop where
  bounded : ∀ count ∈ receiptCounts receipt, count ≤ maxReceiptCount
  sum : receipt.invariantPassCount + receipt.invariantNaCount + receipt.invariantViolationCount =
    receipt.invariantTotal
  quiet : receipt.outcome ≠ .anomaly →
    receipt.invariantViolationCount = 0 ∧ receipt.findingCount = 0
  found : receipt.outcome = .anomaly → receipt.findingCount ≠ 0
  unexpected : receipt.outcome = .noExpectation → receipt.expectationId = none
  provenance : receipt.expectationId = none → receipt.sourceProvenance = none

/-- The item counts under a coverage state. -/
structure CoverageCounts (state : Option CoverageState) (inspected violating : Option Nat) : Prop where
  bounded : ∀ n, violating = some n → ∀ m, inspected = some m → n ≤ m
  violation : state = some .violation → ∃ n, violating = some n ∧ 1 ≤ n
  quiet : state = some .fullyEvaluatedPass ∨ state = some .partialCoverageNoViolation →
    ∀ n, violating = some n → n = 0
  empty : state = some .emptyNotApplicable → ∀ n, inspected = some n → n = 0

structure Covered (receipt : SemanticEvaluationReceipt) : Prop where
  counts : CoverageCounts receipt.coverageState receipt.inspectedItemCount
    receipt.violatingItemCount
  partialState : receipt.outcome = .partialCoverage →
    receipt.coverageState = some .partialCoverageNoViolation
  notPassing : receipt.coverageState = some .partialCoverageNoViolation → receipt.outcome ≠ .pass

variable {receipt : SemanticEvaluationReceipt}

theorem identity_accepted (h : Identified receipt) :
    ∀ refusal ∈ identityRefusals receipt, refusal.1 = false := by
  simp [identityRefusals, h.oracleId, h.receiptId, h.targetId, h.expectationId, h.journeyId,
    h.stepId, h.operationId, h.projectionDigests]

theorem count_accepted (h : Counted receipt) :
    ∀ refusal ∈ countRefusals receipt, refusal.1 = false := by
  have hbounded : ((receiptCounts receipt).any fun count => maxReceiptCount < count) = false := by
    rw [List.any_eq_false]
    intro count hcount
    simpa using h.bounded count hcount
  simp [countRefusals, hbounded, h.sum]

theorem outcome_accepted (h : Counted receipt) :
    ∀ refusal ∈ outcomeRefusals receipt, refusal.1 = false := by
  have hprovenance : receipt.sourceProvenance.isSome = true → receipt.expectationId.isSome = true := by
    intro hsome
    rw [Option.isSome_iff_ne_none] at hsome ⊢
    exact fun hnone => hsome (h.provenance hnone)
  simp only [outcomeRefusals, List.forall_mem_cons]
  refine ⟨?_, ?_, ?_, ?_, ?_, by simp⟩
  · simpa using fun houtcome => (h.quiet houtcome).1
  · simpa using fun houtcome => (h.quiet houtcome).2
  · simpa using h.found
  · simpa using h.unexpected
  · simpa [Option.isNone_eq_false_iff] using hprovenance

theorem coverage_accepted (h : Counted receipt) (hcovered : Covered receipt) :
    ∀ refusal ∈ coverageRefusals receipt, refusal.1 = false := by
  have hquiet (houtcome : receipt.outcome = .partialCoverage) := h.quiet (by rw [houtcome]; decide)
  simp only [coverageRefusals, List.forall_mem_cons]
  refine ⟨?_, ?_, ?_, ?_, ?_, ?_, ?_, ?_, ?_, by simp⟩
  · simpa using hcovered.partialState
  · simpa using fun houtcome => (hquiet houtcome).1
  · simpa using fun houtcome => (hquiet houtcome).2
  · simpa using fun houtcome hstate => hcovered.notPassing hstate houtcome
  · simpa [Option.any_eq_false] using hcovered.counts.bounded
  · rw [Bool.and_eq_false_iff]
    by_cases hstate : receipt.coverageState = some .violation
    · obtain ⟨n, hn, hpos⟩ := hcovered.counts.violation hstate
      right
      rw [hn]
      simpa using Nat.one_le_iff_ne_zero.mp hpos
    · exact .inl (by simpa using hstate)
  · simpa [Option.any_eq_false] using fun hstate => hcovered.counts.quiet (.inl hstate)
  · simpa [Option.any_eq_false] using hcovered.counts.empty
  · simpa [Option.any_eq_false] using fun hstate => hcovered.counts.quiet (.inr hstate)

theorem version_accepted (h : receipt.schemaVersion = .v2) :
    ∀ refusal ∈ versionRefusals receipt, refusal.1 = false := by
  simp [versionRefusals, h]

theorem validate_of_sound (hversion : receipt.schemaVersion = .v2)
    (hidentified : Identified receipt) (hcounted : Counted receipt) (hcovered : Covered receipt) :
    validateSemanticEvaluationReceipt receipt = .ok () := by
  rw [validate_eq_ok]
  simp only [refusals, List.forall_mem_append]
  exact ⟨⟨⟨⟨identity_accepted hidentified, count_accepted hcounted⟩, outcome_accepted hcounted⟩,
    coverage_accepted hcounted hcovered⟩, version_accepted hversion⟩

end Acceptance

section Builder

variable (rt : Runtime) (sha256Hex : JsString → JsString)

def outcomeName : SemanticReceiptOutcome → String
  | .pass => "PASS"
  | .anomaly => "ANOMALY"
  | .notApplicable => "NOT_APPLICABLE"
  | .noExpectation => "NO_EXPECTATION"
  | .expectationSourceStale => "EXPECTATION_SOURCE_STALE"
  | .expectationSourceUnavailable => "EXPECTATION_SOURCE_UNAVAILABLE"
  | .invalidInput => "INVALID_INPUT"
  | .projectionLimitExceeded => "PROJECTION_LIMIT_EXCEEDED"
  | .internalError => "INTERNAL_ERROR"
  | .partialCoverage => "PARTIAL_COVERAGE"

def acceptanceName : SemanticEvidenceAcceptanceClass → String
  | .localSynthetic => "LOCAL_SYNTHETIC"
  | .containedDev => "CONTAINED_DEV"

def coverageName : CoverageState → String
  | .fullyEvaluatedPass => "FULLY_EVALUATED_PASS"
  | .violation => "VIOLATION"
  | .emptyNotApplicable => "EMPTY_NOT_APPLICABLE"
  | .partialCoverageNoViolation => "PARTIAL_COVERAGE_NO_VIOLATION"
  | .projectionLimitExceeded => "PROJECTION_LIMIT_EXCEEDED"

def semanticEvaluationReceiptVersion : String := "nightwatch.semantic-evaluation-receipt.v2"

def textField (name : String) (value : Option JsString) : List (JsString × JsValue) :=
  (value.map fun s => (name.toList, .str s)).toList

def countField (name : String) (value : Option Nat) : List (JsString × JsValue) :=
  (value.map fun n => (name.toList, .num (.ofNat n))).toList

/-- The fields of a draft by sorted name. The names also filter what is nested, so nothing of the
provenance stays. -/
def draftValue (input : SemanticReceiptInput) : JsValue :=
  .obj (textField "acceptanceClass"
      ((input.acceptanceClass.map fun c => (acceptanceName c).toList)) ++
    textField "coverageState" (input.coverageState.map fun c => (coverageName c).toList) ++
    textField "expectationId" input.expectationId ++
    countField "findingCount" (some input.findingCount) ++
    countField "inspectedItemCount" input.inspectedItemCount ++
    countField "invariantNaCount" (some input.invariantNaCount) ++
    countField "invariantPassCount" (some input.invariantPassCount) ++
    countField "invariantTotal" (some input.invariantTotal) ++
    countField "invariantViolationCount" (some input.invariantViolationCount) ++
    textField "journeyId" input.journeyId ++
    textField "operationId" input.operationId ++
    textField "oracleId" (some input.oracleId) ++
    textField "outcome" (some (outcomeName input.outcome).toList) ++
    [("projectionDigests".toList, .arr (input.projectionDigests.map .str))] ++
    textField "schemaVersion" (some semanticEvaluationReceiptVersion.toList) ++
    (input.sourceProvenance.map fun _ => ("sourceProvenance".toList, .obj [])).toList ++
    textField "stepId" input.stepId ++
    textField "targetId" input.targetId ++
    countField "violatingItemCount" input.violatingItemCount)

def draftOf (input : SemanticReceiptInput) : SemanticReceiptInput :=
  { input with acceptanceClass := some (input.acceptanceClass.getD .localSynthetic) }

def receiptOf (input : SemanticReceiptInput) : SemanticEvaluationReceipt where
  toSemanticReceiptInput := draftOf input
  schemaVersion := .v2
  receiptId := digestId sha256Hex "receipt" (rt.jsonStringify (draftValue (draftOf input)))

def buildSemanticEvaluationReceipt (input : SemanticReceiptInput) :
    Except ReceiptError SemanticEvaluationReceipt := do
  validateSemanticEvaluationReceipt (receiptOf rt sha256Hex input)
  return receiptOf rt sha256Hex input

variable {rt} {sha256Hex}

theorem build_eq_ok {input : SemanticReceiptInput} {receipt : SemanticEvaluationReceipt} :
    buildSemanticEvaluationReceipt rt sha256Hex input = .ok receipt ↔
      validateSemanticEvaluationReceipt (receiptOf rt sha256Hex input) = .ok () ∧
        receipt = receiptOf rt sha256Hex input := by
  rw [buildSemanticEvaluationReceipt, bind_eq_ok]
  constructor
  · rintro ⟨_, hvalid, hreceipt⟩
    exact ⟨hvalid, (Except.ok.inj hreceipt).symm⟩
  · rintro ⟨hvalid, rfl⟩
    exact ⟨(), hvalid, rfl⟩

/-- The digest is a text of at least 24 hexadecimal digits. -/
def WritesHex (sha256Hex : JsString → JsString) : Prop :=
  ∀ s, 24 ≤ (sha256Hex s).length ∧ (sha256Hex s).all isHexDigit = true

theorem isDigestId_digestId (hhex : WritesHex sha256Hex) (stem : String) (text : JsString) :
    isDigestId stem (digestId sha256Hex stem text) = true := by
  have hlength : stem.toList.length = stem.length := rfl
  have hdrop : (digestId sha256Hex stem text).drop (stem.length + 8) = (sha256Hex text).take 24 := by
    rw [digestId, List.drop_left' (by rw [List.length_append, hlength]; rfl)]
  obtain ⟨hlong, hall⟩ := hhex text
  have htake : ((sha256Hex text).take 24).all isHexDigit = true := by
    rw [List.all_eq_true] at hall ⊢
    exact fun c hc => hall c (List.mem_of_mem_take hc)
  rw [isDigestId, hdrop, htake, digestId, startsWith_iff.mpr (List.prefix_append _ _)]
  simp [hlong]

end Builder

end NightWatch.Oracles.Receipts
