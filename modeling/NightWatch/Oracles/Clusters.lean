import NightWatch.Lib.Grouping
import NightWatch.Oracles.Semantic

namespace NightWatch.Oracles.Clusters

open Lib.JsText Lib.JsData Lib.JsRuntime Lib.Grouping Oracles.Projections Oracles.Invariants
  Oracles.Semantic

def kindName : InvariantKind → JsString
  | .fieldPresent => "FIELD_PRESENT".toList
  | .fieldAbsent => "FIELD_ABSENT".toList
  | .typeMatch => "TYPE_MATCH".toList
  | .typeInSet => "TYPE_IN_SET".toList
  | .cardinalityMatch => "CARDINALITY_MATCH".toList
  | .envelopeClass => "ENVELOPE_CLASS".toList
  | .identityEqual => "IDENTITY_EQUAL".toList
  | .identityPresentInCollection => "IDENTITY_PRESENT_IN_COLLECTION".toList
  | .numericSumRelation => "NUMERIC_SUM_RELATION".toList
  | .countRelation => "COUNT_RELATION".toList
  | .shapeChanged => "SHAPE_CHANGED".toList
  | .collectionItemContract => "COLLECTION_ITEM_CONTRACT".toList
  | .identityUniqueness => "IDENTITY_UNIQUENESS".toList
  | .paginationWindow => "PAGINATION_WINDOW".toList
  | .emptyStateConsistency => "EMPTY_STATE_CONSISTENCY".toList
  | .stateRelation => "STATE_RELATION".toList
  | .surfaceEquivalence => "SURFACE_EQUIVALENCE".toList

def envelopeName : EnvelopeClass → JsString
  | .success => "SUCCESS".toList
  | .error => "ERROR".toList
  | .unknown => "UNKNOWN".toList

def transitionName : TransitionExpectation → JsString
  | .change => "CHANGE".toList
  | .remainStable => "REMAIN_STABLE".toList
  | .unknown => "UNKNOWN".toList

def equalityName : EqualityExpectation → JsString
  | .equal => "EQUAL".toList
  | .notEqual => "NOT_EQUAL".toList

def operationName : CountOperation → JsString
  | .countEquals => "COUNT_EQUALS".toList
  | .countGte => "COUNT_GTE".toList

def textsValue (texts : List JsString) : JsValue := .arr (texts.map .str)

/-- `value ?? null`. -/
def orNullValue {α : Type} (write : α → JsValue) (value : Option α) : JsValue :=
  (value.map write).getD .null

/-- `[...types].sort()`. -/
def typesValue (types : List ProjectionNodeType) : JsValue :=
  textsValue ((types.map typeName).insertionSort textLe)

def kindField (kind : InvariantKind) : JsString × JsValue := ("kind".toList, .str (kindName kind))

def pathField (name : String) (path : SafePath) : JsString × JsValue :=
  (name.toList, textsValue path)

def textField (name : String) (text : JsString) : JsString × JsValue := (name.toList, .str text)

def itemKind : ItemInvariant → InvariantKind
  | .fieldPresent _ => .fieldPresent
  | .fieldAbsent => .fieldAbsent
  | .typeMatch _ => .typeMatch
  | .typeInSet _ => .typeInSet

def itemFields : ItemInvariant → List (JsString × JsValue)
  | .fieldPresent itemExpected => [("itemExpected".toList, .bool itemExpected)]
  | .fieldAbsent => []
  | .typeMatch itemExpectedType => [textField "itemExpectedType" (typeName itemExpectedType)]
  | .typeInSet itemAllowedTypes => [("itemAllowedTypes".toList, typesValue itemAllowedTypes)]

def canonicalFields : InvariantDefinition → List (JsString × JsValue)
  | .fieldPresent path expected => [pathField "path" path, ("expected".toList, .bool expected)]
  | .fieldAbsent path => [pathField "path" path]
  | .typeMatch path expectedType =>
      [pathField "path" path, textField "expectedType" (typeName expectedType)]
  | .typeInSet path allowedTypes =>
      [pathField "path" path, ("allowedTypes".toList, typesValue allowedTypes)]
  | .cardinalityMatch path min max exact =>
      [pathField "path" path, ("min".toList, orNullValue .num min),
        ("max".toList, orNullValue .num max), ("exact".toList, orNullValue .num exact)]
  | .envelopeClass expected successField errorField =>
      [textField "expected" (envelopeName expected), pathField "successField" successField,
        pathField "errorField" errorField]
  | .identityEqual leftPath rightPath =>
      [pathField "leftPath" leftPath, pathField "rightPath" rightPath]
  | .identityPresentInCollection collectionPath itemIdentityPath detailIdentityPath
      correlationContext =>
      [pathField "collectionPath" collectionPath, pathField "itemIdentityPath" itemIdentityPath,
        pathField "detailIdentityPath" detailIdentityPath,
        textField "correlationContext" correlationContext]
  | .numericSumRelation relationId collectionPath numericFieldPath scalarPath =>
      [textField "relationId" relationId, pathField "collectionPath" collectionPath,
        pathField "numericFieldPath" numericFieldPath, pathField "scalarPath" scalarPath]
  | .countRelation relationId operation collectionPath scalarPath expectedCount =>
      [textField "relationId" relationId, textField "operation" (operationName operation),
        pathField "collectionPath" collectionPath,
        ("scalarPath".toList, orNullValue textsValue scalarPath),
        ("expectedCount".toList, orNullValue .num expectedCount)]
  | .shapeChanged expectedTransition statePath =>
      [textField "expectedTransition" (transitionName expectedTransition),
        ("statePath".toList, orNullValue textsValue statePath)]
  | .identityUniqueness relationId collectionPath itemIdentityPath =>
      [textField "relationId" relationId, pathField "collectionPath" collectionPath,
        pathField "itemIdentityPath" itemIdentityPath]
  | .paginationWindow relationId leftCollectionPath rightCollectionPath itemIdentityPath =>
      [textField "relationId" relationId, pathField "leftCollectionPath" leftCollectionPath,
        pathField "rightCollectionPath" rightCollectionPath,
        pathField "itemIdentityPath" itemIdentityPath]
  | .emptyStateConsistency relationId collectionPath countPath emptyMarkerPath =>
      [textField "relationId" relationId, pathField "collectionPath" collectionPath,
        pathField "countPath" countPath, pathField "emptyMarkerPath" emptyMarkerPath]
  | .stateRelation relationId beforePath afterPath expected =>
      [textField "relationId" relationId, pathField "beforePath" beforePath,
        pathField "afterPath" afterPath, textField "expected" (equalityName expected)]
  | .surfaceEquivalence relationId leftPath rightPath expected =>
      [textField "relationId" relationId, pathField "leftPath" leftPath,
        pathField "rightPath" rightPath, textField "expected" (equalityName expected)]
  | .collectionItemContract contract =>
      [pathField "collectionPath" contract.collectionPath,
        textField "itemInvariantKind" (kindName (itemKind contract.itemInvariant)),
        pathField "itemRelativePath" contract.itemRelativePath] ++ itemFields contract.itemInvariant

def canonicalInvariant (invariant : InvariantDefinition) : JsValue :=
  .obj (kindField invariant.kind :: canonicalFields invariant)

def invariantPathSegments : InvariantDefinition → List JsString
  | .fieldPresent path _ | .fieldAbsent path | .typeMatch path _ | .typeInSet path _
  | .cardinalityMatch path .. => path
  | .identityPresentInCollection collectionPath .. | .numericSumRelation _ collectionPath ..
  | .countRelation _ _ collectionPath .. | .identityUniqueness _ collectionPath _
  | .emptyStateConsistency _ collectionPath .. => collectionPath
  | .collectionItemContract contract => contract.collectionPath ++ contract.itemRelativePath
  | .envelopeClass .. | .identityEqual .. | .shapeChanged .. | .paginationWindow ..
  | .stateRelation .. | .surfaceEquivalence .. => []

def relationIdOf : InvariantDefinition → Option JsString
  | .numericSumRelation relationId .. | .countRelation relationId ..
  | .identityUniqueness relationId .. | .paginationWindow relationId ..
  | .emptyStateConsistency relationId .. | .stateRelation relationId ..
  | .surfaceEquivalence relationId .. => some relationId
  | _ => none

def startsWithWord (s : JsString) (word : String) : Bool :=
  startsWith (s.map Char.toLower) (word.toList.map Char.toLower)

def sentinels : List String :=
  ["CUSTOMER_SENTINEL", "ACCOUNT_SENTINEL", "EMAIL_SENTINEL", "COST_SENTINEL", "TOKEN_SENTINEL"]

/-- `FORBIDDEN_VALUE_RE` at the start of a text. -/
def forbiddenAt (s : JsString) : Bool :=
  sentinels.any (startsWithWord s) ||
    (startsWithWord s "Bearer" && (s.drop 6).head?.any isSpace) ||
    (startsWithWord s "eyJ" &&
      let word := (s.drop 3).takeWhile fun c => c.isAlphanum || c = '_' || c = '-'
      8 ≤ word.length && ((s.drop 3).drop word.length).head? = some '.') ||
    (startsWithWord s "AKIA" && 16 ≤ ((s.drop 4).takeWhile Char.isAlphanum).length) ||
    (startsWithWord s "-----BEGIN " &&
      let label := (s.drop 11).takeWhile fun c => c.isAlpha || c = ' '
      endsWith (label.map Char.toLower) "private key".toList &&
        startsWith ((s.drop 11).drop label.length) "-----".toList)

def identityValueForbidden (value : JsString) : Bool := value.tails.any forbiddenAt

def refuseIf (condition : Bool) (message : String) : Except String Unit :=
  if condition then .error message else .ok ()

def assertSafe (value : JsString) (field : String) : Except String Unit :=
  refuseIf (identityValueForbidden value) ("SEMANTIC_CLUSTER_PRIVACY_BLOCKED:" ++ field)

/-- A letter or digit, then one to two hundred of these or of `._:/` and the dash. -/
def isSafeId : JsString → Bool
  | [] => false
  | first :: rest =>
      first.isAlphanum && upTo 200 (fun c => c.isAlphanum || c ∈ "._:/-".toList) rest

def assertSafeId (value : JsString) (field : String) : Except String Unit := do
  refuseIf (!isSafeId value) ("SEMANTIC_CLUSTER_ID_INVALID:" ++ field)
  assertSafe value field

def assertSafeSegments : List JsString → Except String Unit
  | [] => .ok ()
  | segment :: rest => do
      assertSafe segment "invariant-path"
      assertSafeSegments rest

/-- `/^[A-Za-z0-9_.-]{1,80}$/`. -/
def isRunId : JsString → Bool := upTo 80 fun c => c.isAlphanum || c ∈ "_.-".toList

/-- `/^[0-9a-f]{40}$/`. -/
def isSha (s : JsString) : Bool := s.length = 40 && s.all isHexDigit

section Identities

def semanticContractIdentityVersion : JsString := "nightwatch.semantic-contract-identity.v1".toList

def semanticClusterVersion : JsString := "nightwatch.semantic-cluster.v1".toList

structure SemanticObservation where
  runId : JsString
  observedAt : JsString
  expectationId : JsString
  targetId : JsString
  invariant : InvariantDefinition
  invariantDefinitionId : Option JsString
  repoId : JsString
  derivationVersion : JsString
  evidenceDigest : Option JsString
  sha : Option JsString
  fingerprint : JsString
  reproduced : Bool

-- `boundedIdentityDigest`, a digest of the canonical JSON of a value.
variable (boundedIdentityDigest : JsValue → JsString)

def invariantPayload (invariant : InvariantDefinition) : JsValue :=
  .obj [textField "version" semanticContractIdentityVersion,
    ("invariant".toList, canonicalInvariant invariant)]

def derivedInvariantId (invariant : InvariantDefinition) : JsString :=
  "inv:sha256:".toList ++ boundedIdentityDigest (invariantPayload invariant)

def semanticInvariantDefinitionId (invariant : InvariantDefinition) : Except String JsString := do
  assertSafeSegments (invariantPathSegments invariant)
  (relationIdOf invariant).forM (assertSafeId · "relationId")
  return derivedInvariantId boundedIdentityDigest invariant

/-- `obs.invariantDefinitionId ?? semanticInvariantDefinitionId(obs.invariant)`. -/
def invariantIdOf (obs : SemanticObservation) : JsString :=
  obs.invariantDefinitionId.getD (derivedInvariantId boundedIdentityDigest obs.invariant)

def contractPayload (obs : SemanticObservation) : JsValue :=
  .obj [textField "version" semanticContractIdentityVersion,
    textField "expectationId" obs.expectationId, textField "targetId" obs.targetId,
    textField "invariantId" (invariantIdOf boundedIdentityDigest obs),
    textField "derivationVersion" obs.derivationVersion,
    ("evidenceDigest".toList, orNullValue .str obs.evidenceDigest),
    textField "repoId" obs.repoId]

def contractIdentityOf (obs : SemanticObservation) : JsString :=
  "sci:sha256:".toList ++ boundedIdentityDigest (contractPayload boundedIdentityDigest obs)

def assertEvidenceDigest (evidenceDigest : JsString) : Except String Unit := do
  refuseIf (!isDigestId "ev" evidenceDigest) "SEMANTIC_CLUSTER_EVIDENCE_DIGEST_INVALID"
  assertSafe evidenceDigest "evidenceDigest"

def assertContractIds (obs : SemanticObservation) : Except String Unit := do
  assertSafeId obs.expectationId "expectationId"
  assertSafeId obs.targetId "targetId"
  assertSafeId obs.repoId "repoId"
  assertSafeId obs.derivationVersion "derivationVersion"

def semanticContractIdentity (obs : SemanticObservation) : Except String JsString := do
  assertContractIds obs
  obs.evidenceDigest.forM assertEvidenceDigest
  let _ ← semanticInvariantDefinitionId boundedIdentityDigest obs.invariant
  return contractIdentityOf boundedIdentityDigest obs

def semanticContractIdentityFromInvariantId (obs : SemanticObservation)
    (invariantDefinitionId : JsString) : Except String JsString := do
  assertContractIds obs
  refuseIf (!isDigestId "inv" invariantDefinitionId) "SEMANTIC_CLUSTER_INVARIANT_ID_INVALID"
  assertSafe invariantDefinitionId "invariantDefinitionId"
  obs.evidenceDigest.forM assertEvidenceDigest
  return contractIdentityOf boundedIdentityDigest obs

def clusterPayload (contractIdentity : JsString) : JsValue :=
  .obj [textField "version" semanticClusterVersion, textField "sci" contractIdentity]

def clusterKeyOf (obs : SemanticObservation) : JsString :=
  "sc:sha256:".toList ++
    boundedIdentityDigest (clusterPayload (contractIdentityOf boundedIdentityDigest obs))

end Identities

section Clustering

structure SemanticCluster where
  clusterKey : JsString
  contractIdentity : JsString
  expectationId : JsString
  targetId : JsString
  invariantId : JsString
  fingerprint : JsString
  occurrenceCount : Nat
  reproductionCount : Nat
  runIds : List JsString

variable (rt : Runtime) (boundedIdentityDigest : JsValue → JsString)

def checkObservation (obs : SemanticObservation) : Except String Unit := do
  refuseIf (!isDigestId "fp" obs.fingerprint) "SEMANTIC_CLUSTER_FINGERPRINT_INVALID"
  refuseIf (!isRunId obs.runId) "SEMANTIC_CLUSTER_RUN_ID_INVALID"
  refuseIf (!rt.parsesDate obs.observedAt) "SEMANTIC_CLUSTER_TIMESTAMP_INVALID"
  refuseIf (obs.sha.any fun sha => !isSha sha) "SEMANTIC_CLUSTER_SHA_INVALID"
  assertSafe obs.fingerprint "fingerprint"
  assertSafe obs.runId "runId"
  let _ ← match obs.invariantDefinitionId with
    | none => semanticContractIdentity boundedIdentityDigest obs
    | some id => semanticContractIdentityFromInvariantId boundedIdentityDigest obs id

def collect : List (JsString × List SemanticObservation) → List SemanticObservation →
    Except String (List (JsString × List SemanticObservation))
  | buckets, [] => .ok buckets
  | buckets, obs :: rest => do
      checkObservation rt boundedIdentityDigest obs
      collect (addTo (clusterKeyOf boundedIdentityDigest) buckets obs) rest

def runKey (obs : SemanticObservation) : JsString × JsString × JsString :=
  (obs.runId, obs.observedAt, obs.fingerprint)

/-- `a.localeCompare(b) <= 0`. -/
def localeOrder (s t : JsString) : Prop := rt.localeLe s t = true

instance : DecidableRel (localeOrder rt) := fun s t =>
  inferInstanceAs (Decidable (rt.localeLe s t = true))

def runKeyLe : JsString × JsString × JsString → JsString × JsString × JsString → Prop :=
  lexLe (localeOrder rt) (lexLe (localeOrder rt) (localeOrder rt))

instance : DecidableRel (runKeyLe rt) :=
  inferInstanceAs (DecidableRel (lexLe (localeOrder rt) (lexLe (localeOrder rt) (localeOrder rt))))

def ordered (items : List SemanticObservation) : List SemanticObservation :=
  items.insertionSort fun a b => runKeyLe rt (runKey a) (runKey b)

/-- The cluster of a bucket; `first` is the observation that opened it. -/
def clusterOf (key : JsString) (first : SemanticObservation) (items : List SemanticObservation) :
    SemanticCluster where
  clusterKey := key
  contractIdentity := contractIdentityOf boundedIdentityDigest first
  expectationId := first.expectationId
  targetId := first.targetId
  invariantId := invariantIdOf boundedIdentityDigest first
  fingerprint := (((ordered rt items).map SemanticObservation.fingerprint).head?).getD []
  occurrenceCount := items.length
  reproductionCount := items.countP SemanticObservation.reproduced
  runIds := (ordered rt items).map SemanticObservation.runId

def bucketCluster (bucket : JsString × List SemanticObservation) : Option SemanticCluster :=
  bucket.2.head?.map fun first => clusterOf rt boundedIdentityDigest bucket.1 first bucket.2

def clusterSemanticObservations (observations : List SemanticObservation) :
    Except String (List SemanticCluster) := do
  let buckets ← collect rt boundedIdentityDigest [] observations
  return (buckets.filterMap (bucketCluster rt boundedIdentityDigest)).insertionSort fun a b =>
    localeOrder rt a.clusterKey b.clusterKey

end Clustering

end NightWatch.Oracles.Clusters
