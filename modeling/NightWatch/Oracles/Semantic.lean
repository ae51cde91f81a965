import NightWatch.Lib.JsRuntime
import NightWatch.Oracles.Invariants

namespace NightWatch.Oracles.Semantic

open Lib.JsText Lib.JsData Lib.JsRuntime Oracles.Projections Oracles.Invariants

section Serializer

variable (rt : Runtime) (sha256Hex : JsString → JsString)

def canonicalString (s : JsString) : JsString := rt.jsonStringify (.str s)

def canonicalName (s : String) : JsString := canonicalString rt s.toList

def maxSerializedCount : Nat := 1000000

def maxSerializedFields : Nat := 64

/-- `boundedInteger`; `none` is the thrown error, here and below. -/
def boundedInteger (max : Nat) (value : Option Nat) : Option Nat :=
  value.filter fun n => n ≤ max

/-- `^stem#[0-9]{4}$`. -/
def isLabel (stem : String) (key : JsString) : Bool :=
  startsWith key (stem.toList ++ ['#']) && (key.drop (stem.length + 1)).length = 4 &&
    (key.drop (stem.length + 1)).all Char.isDigit

def typeName : ProjectionNodeType → JsString
  | .null => "NULL".toList
  | .boolean => "BOOLEAN".toList
  | .number => "NUMBER".toList
  | .string => "STRING".toList
  | .object => "OBJECT".toList
  | .array => "ARRAY".toList

def itemTypeName : ItemType → JsString
  | .of type => typeName type
  | .mixed => "MIXED".toList

def stringClassName : StringContentClass → JsString
  | .empty => "EMPTY".toList
  | .nonempty => "NONEMPTY".toList

theorem typeName_injective : Function.Injective typeName := by
  intro type type' h
  cases type <;> cases type' <;> first | rfl | exact absurd h (by decide)

def writeParts (type : ProjectionNodeType) (parts : List JsString) : JsString :=
  braced ([canonicalName rt "type", canonicalString rt (typeName type)] ++ parts)

def listed (parts : List JsString) : JsString := '[' :: join ',' parts ++ [']']

def isFieldName (name : JsString) : Bool :=
  utf16Length name ≤ 200 && name ∉ forbiddenFieldNames && '\x00' ∉ name

def inNameOrder : List JsString → Bool
  | first :: second :: rest => textLe first second && first ≠ second && inNameOrder (second :: rest)
  | _ => true

mutual

def writeNode : ProjectionNode → Option JsString
  | .null => some (writeParts rt .null [])
  | .boolean booleanClass => do
      let b ← booleanClass
      return writeParts rt .boolean
        [canonicalName rt "booleanClass", canonicalString rt (booleanText b)]
  | .number numericRef => do
      let ref ← numericRef.filter (isLabel "numeric")
      return writeParts rt .number [canonicalName rt "numericRef", canonicalString rt ref]
  | .string stringClass identityToken => do
      let content ← stringClass
      let token ← identityToken.filter (isLabel "entity")
      return writeParts rt .string
        [canonicalName rt "identityToken", canonicalString rt token,
          canonicalName rt "stringClass", canonicalString rt (stringClassName content)]
  | .object fieldCount fields => do
      let count ← boundedInteger maxSerializedFields fieldCount
      guard (fields.length = count)
      guard (inNameOrder (fields.map Prod.fst))
      let written ← writeFields fields
      return writeParts rt .object
        [canonicalName rt "fieldCount", decimal count, canonicalName rt "fields", listed written]
  | .array itemType itemCount inspectedCount items arrayTruncated => do
      let type ← itemType
      let count ← boundedInteger maxSerializedCount itemCount
      let inspected ← boundedInteger maxSerializedCount inspectedCount
      guard (inspected ≤ count && items.length = inspected)
      guard (arrayTruncated = some (decide (inspected < count)))
      let written ← writeItems items
      return writeParts rt .array
        [canonicalName rt "itemType", canonicalString rt (itemTypeName type),
          canonicalName rt "itemCount", decimal count,
          canonicalName rt "inspectedCount", decimal inspected,
          canonicalName rt "items", listed written,
          canonicalName rt "arrayTruncated",
          if inspected < count then "true".toList else "false".toList]
  | .unlisted _ _ _ _ => none

def writeItems : List ProjectionNode → Option (List JsString)
  | [] => some []
  | item :: rest => do
      let written ← writeNode item
      let more ← writeItems rest
      return written :: more

def writeFields : List (JsString × ProjectionNode) → Option (List JsString)
  | [] => some []
  | (name, node) :: rest => do
      guard (isFieldName name)
      let written ← writeNode node
      let more ← writeFields rest
      return braced [canonicalName rt "name" ++ ':' :: canonicalString rt name,
        canonicalName rt "node" ++ ':' :: written] :: more

end

def semanticProjectionVersion : String := "nightwatch.semantic-projection.v1"

def serializeProjection (root : ProjectionNode) : Option JsString := do
  let written ← writeNode rt root
  return braced
    [canonicalName rt "schemaVersion" ++ ':' :: canonicalName rt semanticProjectionVersion,
      canonicalName rt "root" ++ ':' :: written]

/-- `stem:sha256:` and the first digits of the digest. -/
def digestId (stem : String) (text : JsString) : JsString :=
  stem.toList ++ ":sha256:".toList ++ (sha256Hex text).take 24

def projectionDigest (root : ProjectionNode) : Option JsString :=
  (serializeProjection rt root).map (digestId sha256Hex "proj")

end Serializer

structure SourceProvenance where
  repoId : JsString
  sha : JsString
  relativePath : JsString
  symbol : Option JsString
  derivationVersion : JsString
  evidenceDigest : Option JsString
  deriving DecidableEq

structure SourceSnapshot where
  repoId : JsString
  sha : JsString

structure SemanticExpectation where
  expectationId : JsString
  targetId : JsString
  sourceProvenance : SourceProvenance
  invariantDefinitions : List InvariantDefinition

inductive ExpectationFreshness where
  | unavailable
  | stale
  | current
  deriving DecidableEq

def resolveExpectationFreshness (provenance : SourceProvenance) :
    Option SourceSnapshot → ExpectationFreshness
  | none => .unavailable
  | some snapshot =>
      if snapshot.repoId ≠ provenance.repoId then .unavailable
      else if snapshot.sha ≠ provenance.sha then .stale
      else .current

section Findings

inductive SemanticOutcome where
  | pass
  | anomaly
  | notApplicable
  | expectationUnavailable
  | expectationSourceStale
  | expectationInvalid
  | invalidInput
  | projectionLimitExceeded
  | partialCoverage
  deriving DecidableEq

inductive SemanticFindingCategory where
  | applicationErrorEnvelope
  | listDetailIdentityMismatch
  | staleStateAfterTransition
  | aggregateRelationMismatch
  | cardinalityRelationMismatch
  | identityUniquenessViolation
  | paginationWindowMismatch
  | emptyStateContradiction
  | stateRelationMismatch
  | crossSurfaceMismatch
  | sourceExpectationMismatch

def categoryName : SemanticFindingCategory → JsString
  | .applicationErrorEnvelope => "APPLICATION_ERROR_ENVELOPE".toList
  | .listDetailIdentityMismatch => "LIST_DETAIL_IDENTITY_MISMATCH".toList
  | .staleStateAfterTransition => "STALE_STATE_AFTER_TRANSITION".toList
  | .aggregateRelationMismatch => "AGGREGATE_RELATION_MISMATCH".toList
  | .cardinalityRelationMismatch => "CARDINALITY_RELATION_MISMATCH".toList
  | .identityUniquenessViolation => "IDENTITY_UNIQUENESS_VIOLATION".toList
  | .paginationWindowMismatch => "PAGINATION_WINDOW_MISMATCH".toList
  | .emptyStateContradiction => "EMPTY_STATE_CONTRADICTION".toList
  | .stateRelationMismatch => "STATE_RELATION_MISMATCH".toList
  | .crossSurfaceMismatch => "CROSS_SURFACE_MISMATCH".toList
  | .sourceExpectationMismatch => "SOURCE_EXPECTATION_MISMATCH".toList

structure SemanticOracleFinding where
  findingId : JsString
  oracleId : JsString
  category : SemanticFindingCategory
  journeyId : Option JsString
  stepId : Option JsString
  operationId : Option JsString
  expectationId : JsString
  sourceProvenance : SourceProvenance
  expectedClass : JsString
  observedClass : JsString
  projectionDigests : List JsString
  relationId : Option JsString

def expectedClassFor : InvariantKind → String
  | .envelopeClass => "SUCCESS_ENVELOPE"
  | .identityPresentInCollection => "IDENTITY_PRESENT_IN_COLLECTION"
  | .shapeChanged => "CHANGE"
  | .numericSumRelation => "SUM_EQUALS"
  | .countRelation => "COUNT_EQUALS"
  | .identityUniqueness => "IDENTITY_UNIQUE"
  | .paginationWindow => "WINDOW_IDENTITIES_DISJOINT"
  | .emptyStateConsistency => "EMPTY_STATE_CONSISTENT"
  | .stateRelation => "STATE_RELATION_ALLOWED"
  | .surfaceEquivalence => "SURFACES_EQUIVALENT"
  | .fieldPresent => "FIELD_PRESENT"
  | .fieldAbsent => "FIELD_ABSENT"
  | .typeMatch => "TYPE_MATCH"
  | .typeInSet => "TYPE_IN_SET"
  | .collectionItemContract => "COLLECTION_ITEM_CONTRACT"
  | .cardinalityMatch => "CARDINALITY_MATCH"
  | .identityEqual => "IDENTITY_EQUAL"

def observedClassFor (expectationId : JsString) : InvariantKind → JsString
  | .envelopeClass => "ERROR_ENVELOPE".toList
  | .identityPresentInCollection => "IDENTITY_ABSENT_FROM_COLLECTION".toList
  | .shapeChanged => "UNCHANGED".toList
  | .numericSumRelation | .countRelation => "RELATION_MISMATCH".toList
  | .identityUniqueness => "DUPLICATE_IDENTITY".toList
  | .paginationWindow => "WINDOW_IDENTITY_OVERLAP".toList
  | .emptyStateConsistency => "EMPTY_STATE_CONTRADICTED".toList
  | .stateRelation => "STATE_RELATION_CONTRADICTED".toList
  | .surfaceEquivalence => "SURFACE_NOT_EQUIVALENT".toList
  | .fieldPresent | .fieldAbsent => "FIELD_PRESENCE_CONTRADICTED".toList
  | .typeMatch | .typeInSet => "TYPE_CONTRADICTED".toList
  | .collectionItemContract => "COLLECTION_ITEM_CONTRACT_VIOLATED".toList
  | .cardinalityMatch | .identityEqual => expectationId

def categoryForInvariant (kind : InvariantKind) (relationId : Option JsString) :
    SemanticFindingCategory :=
  match kind with
  | .envelopeClass => .applicationErrorEnvelope
  | .identityPresentInCollection => .listDetailIdentityMismatch
  | .shapeChanged => .staleStateAfterTransition
  | .numericSumRelation =>
      if relationId.isSome then .aggregateRelationMismatch else .sourceExpectationMismatch
  | .countRelation =>
      if relationId.isSome then .cardinalityRelationMismatch else .sourceExpectationMismatch
  | .identityUniqueness =>
      if relationId.isSome then .identityUniquenessViolation else .sourceExpectationMismatch
  | .paginationWindow =>
      if relationId.isSome then .paginationWindowMismatch else .sourceExpectationMismatch
  | .emptyStateConsistency =>
      if relationId.isSome then .emptyStateContradiction else .sourceExpectationMismatch
  | .stateRelation =>
      if relationId.isSome then .stateRelationMismatch else .sourceExpectationMismatch
  | .surfaceEquivalence =>
      if relationId.isSome then .crossSurfaceMismatch else .sourceExpectationMismatch
  | _ => .sourceExpectationMismatch

structure SemanticEvaluationInput where
  oracleId : JsString
  expectation : SemanticExpectation
  projections : List ProjectionNode
  ctx : ProjectionContext
  sourceSnapshot : Option SourceSnapshot
  journeyId : Option JsString
  stepId : Option JsString
  operationId : Option JsString

structure SemanticEvaluationResult where
  outcome : SemanticOutcome
  findings : List SemanticOracleFinding
  invariantEvaluations : List InvariantEvaluation

variable (rt : Runtime) (sha256Hex : JsString → JsString)

def orNull (s : Option JsString) : JsValue :=
  match s with
  | some s => .str s
  | none => .null

def semanticFindingFingerprint (oracleId : JsString) (category : SemanticFindingCategory)
    (expectation : SemanticExpectation) (evaluation : InvariantEvaluation) : JsString :=
  digestId sha256Hex "fp" (rt.jsonStringify (.obj [
    ("oracleId".toList, .str oracleId),
    ("category".toList, .str (categoryName category)),
    ("expectationId".toList, .str expectation.expectationId),
    ("expectedClass".toList, .str (expectedClassFor evaluation.invariantKind).toList),
    ("observedClass".toList,
      .str (observedClassFor expectation.expectationId evaluation.invariantKind)),
    ("relationId".toList, orNull evaluation.relationId),
    ("sourceRepoId".toList, .str expectation.sourceProvenance.repoId),
    ("sourceSha".toList, .str expectation.sourceProvenance.sha),
    ("derivationVersion".toList, .str expectation.sourceProvenance.derivationVersion)]))

def isHexDigit (c : Char) : Bool := c.isDigit || ('a' ≤ c && c ≤ 'f')

/-- `^stem:sha256:[0-9a-f]{24}$`. -/
def isDigestId (stem : String) (id : JsString) : Bool :=
  startsWith id (stem.toList ++ ":sha256:".toList) &&
    (id.drop (stem.length + 8)).length = 24 && (id.drop (stem.length + 8)).all isHexDigit

/-- What `validateSemanticFinding` asks of a finding the oracle has built. -/
def isSemanticFinding (finding : SemanticOracleFinding) : Bool :=
  finding.sourceProvenance.sha.length = 40 && finding.sourceProvenance.sha.all isHexDigit &&
    !startsWith finding.sourceProvenance.relativePath ['/'] &&
    !includes finding.sourceProvenance.relativePath "..".toList &&
    finding.projectionDigests ≠ [] && finding.projectionDigests.all (isDigestId "proj") &&
    isDigestId "finding" finding.findingId

def findingOf (input : SemanticEvaluationInput) (digests : List JsString)
    (evaluation : InvariantEvaluation) : SemanticOracleFinding :=
  let category := categoryForInvariant evaluation.invariantKind evaluation.relationId
  let fingerprint :=
    semanticFindingFingerprint rt sha256Hex input.oracleId category input.expectation evaluation
  { findingId := digestId sha256Hex "finding" (fingerprint ++ join '|' digests)
    oracleId := input.oracleId
    category := category
    journeyId := input.journeyId
    stepId := input.stepId
    operationId := input.operationId
    expectationId := input.expectation.expectationId
    sourceProvenance := input.expectation.sourceProvenance
    expectedClass := (expectedClassFor evaluation.invariantKind).toList
    observedClass := observedClassFor input.expectation.expectationId evaluation.invariantKind
    projectionDigests := digests
    relationId := evaluation.relationId }

def checkedFindings : List SemanticOracleFinding → Option (List SemanticOracleFinding)
  | [] => some []
  | finding :: rest => do
      guard (isSemanticFinding finding)
      let more ← checkedFindings rest
      return finding :: more

def quietOutcome (evaluations : List InvariantEvaluation) : SemanticOutcome :=
  if evaluations.any (fun e => e.coverageState = some .partialCoverageNoViolation) ||
      (evaluations.any (fun e => e.verdict = .notApplicable) &&
        evaluations.any fun e => e.verdict = .pass) then .partialCoverage
  else if !evaluations.isEmpty && evaluations.all fun e => e.verdict = .pass then .pass
  else .notApplicable

def digestsOf : List ProjectionNode → Option (List JsString)
  | [] => some []
  | root :: rest => do
      let digest ← projectionDigest rt sha256Hex root
      let more ← digestsOf rest
      return digest :: more

/-- The evaluation of an expectation; `none` is an error thrown by the digests or by a
finding that is not safe. -/
def evaluateSemanticExpectation (input : SemanticEvaluationInput) :
    Option SemanticEvaluationResult :=
  match resolveExpectationFreshness input.expectation.sourceProvenance input.sourceSnapshot with
  | .unavailable => some ⟨.expectationUnavailable, [], []⟩
  | .stale => some ⟨.expectationSourceStale, [], []⟩
  | .current =>
      let evaluations := input.expectation.invariantDefinitions.map
        (evaluateInvariant (fun q => rt.numberText (.finite q)) input.ctx input.projections)
      let violations := evaluations.filter fun e => e.verdict = .violated
      if evaluations.any fun e => e.verdict = .invalidInput then
        some ⟨.invalidInput, [], evaluations⟩
      else if violations = [] then some ⟨quietOutcome evaluations, [], evaluations⟩
      else do
        let digests ← digestsOf rt sha256Hex input.projections
        let findings ← checkedFindings (violations.map (findingOf rt sha256Hex input digests))
        return ⟨.anomaly, findings, evaluations⟩

end Findings

end NightWatch.Oracles.Semantic
