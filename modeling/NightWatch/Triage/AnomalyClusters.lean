import NightWatch.Lib.TextOrder
import NightWatch.Oracles.Clusters

namespace NightWatch.Triage.AnomalyClusters

open Lib.JsText Lib.JsData Lib.JsRuntime Lib.Grouping
open Lib.TextOrder (sortedSet)
open Lib.WebUrl (isHexDigit)
open Oracles.Clusters (identityValueForbidden refuseIf startsWithWord textField
  orNullValue localeOrder)

structure StableAnomalyFeatures where
  journeyId : Option JsString
  envelopeId : Option JsString
  oracleId : JsString
  routeClass : Option JsString
  operationFamily : Option JsString
  statusClass : Option JsString
  contentTypeClass : Option JsString
  runtimeCategory : Option JsString
  structuralState : Option JsString
  failureActionId : Option JsString
  sourceImpactRegion : Option JsString
  browserApiResultClass : Option JsString
  deriving DecidableEq

inductive TimingClass where
  | none
  | bounded
  | transient
  deriving DecidableEq

/-- An observation of its declared type; its source freshness is one of the four asked for, and
nothing else reads it. -/
structure AnomalyObservation where
  runId : JsString
  observedAt : JsString
  fingerprint : JsString
  features : StableAnomalyFeatures
  timingClass : Option TimingClass
  reproduced : Bool
  minimized : Bool
  knownFalsePositiveId : Option JsString
  deriving DecidableEq

/-- `SAFE_CLASS_RE`. -/
def isSafeClass : JsString → Bool := upTo 160 fun c => c.isAlphanum || c ∈ "_.:/-".toList

/-- `RUN_ID_RE`. -/
def isRunId : JsString → Bool := upTo 160 fun c => c.isAlphanum || c ∈ "_.-".toList

def fingerprintTag : String := "fp:sha256:"

/-- `FINGERPRINT_RE`, in any case. -/
def isFingerprint (s : JsString) : Bool :=
  let digits := s.drop fingerprintTag.toList.length
  startsWithWord s fingerprintTag && decide (12 ≤ digits.length) && decide (digits.length ≤ 64) &&
    (digits.map Char.toLower).all isHexDigit

def safeClass (value : JsString) (name : String) : Except String JsString := do
  refuseIf (!isSafeClass value || identityValueForbidden value) ("CLUSTER_FEATURE_UNSAFE:" ++ name)
  return value

/-- `safeClass` of a feature that may be `null`. -/
def safeOptional (value : Option JsString) (name : String) : Except String (Option JsString) :=
  match value with
  | none => .ok none
  | some value => (safeClass value name).map some

def sanitizeFeatures (features : StableAnomalyFeatures) : Except String StableAnomalyFeatures := do
  let journeyId ← safeOptional features.journeyId "journeyId"
  let envelopeId ← safeOptional features.envelopeId "envelopeId"
  let oracleId ← safeClass features.oracleId "oracleId"
  let routeClass ← safeOptional features.routeClass "routeClass"
  let operationFamily ← safeOptional features.operationFamily "operationFamily"
  let statusClass ← safeOptional features.statusClass "statusClass"
  let contentTypeClass ← safeOptional features.contentTypeClass "contentTypeClass"
  let runtimeCategory ← safeOptional features.runtimeCategory "runtimeCategory"
  let structuralState ← safeOptional features.structuralState "structuralState"
  let failureActionId ← safeOptional features.failureActionId "failureActionId"
  let sourceImpactRegion ← safeOptional features.sourceImpactRegion "sourceImpactRegion"
  let browserApiResultClass ← safeOptional features.browserApiResultClass "browserApiResultClass"
  return { journeyId, envelopeId, oracleId, routeClass, operationFamily, statusClass,
           contentTypeClass, runtimeCategory, structuralState, failureActionId,
           sourceImpactRegion, browserApiResultClass }

section Keys

def anomalyClusterVersion : JsString := "nightwatch.anomaly-cluster.private.v1".toList

def featuresValue (features : StableAnomalyFeatures) : JsValue :=
  .obj [("journeyId".toList, orNullValue .str features.journeyId),
    ("envelopeId".toList, orNullValue .str features.envelopeId),
    textField "oracleId" features.oracleId,
    ("routeClass".toList, orNullValue .str features.routeClass),
    ("operationFamily".toList, orNullValue .str features.operationFamily),
    ("statusClass".toList, orNullValue .str features.statusClass),
    ("contentTypeClass".toList, orNullValue .str features.contentTypeClass),
    ("runtimeCategory".toList, orNullValue .str features.runtimeCategory),
    ("structuralState".toList, orNullValue .str features.structuralState),
    ("failureActionId".toList, orNullValue .str features.failureActionId),
    ("sourceImpactRegion".toList, orNullValue .str features.sourceImpactRegion),
    ("browserApiResultClass".toList, orNullValue .str features.browserApiResultClass)]

def isTransient (timingClass : Option TimingClass) : Bool := decide (timingClass = some .transient)

def keyPayload (fingerprint : JsString) (features : StableAnomalyFeatures)
    (timingClass : Option TimingClass) : JsValue :=
  .obj [textField "schemaVersion" anomalyClusterVersion, textField "fingerprint" fingerprint,
    ("features".toList, featuresValue features),
    ("transient".toList, .bool (isTransient timingClass))]

def idPayload (clusterKey : JsString) : JsValue :=
  .obj [textField "schemaVersion" anomalyClusterVersion, textField "key" clusterKey]

-- `boundedIdentityDigest`, a digest of the canonical JSON of a value.
variable (boundedIdentityDigest : JsValue → JsString)

def keyText (fingerprint : JsString) (features : StableAnomalyFeatures)
    (timingClass : Option TimingClass) : JsString :=
  "cluster-key:sha256:".toList ++
    boundedIdentityDigest (keyPayload fingerprint features timingClass)

def clusterKey (fingerprint : JsString) (features : StableAnomalyFeatures)
    (timingClass : Option TimingClass) : Except String JsString := do
  refuseIf (!isFingerprint fingerprint) "CLUSTER_FINGERPRINT_INVALID"
  return keyText boundedIdentityDigest fingerprint features timingClass

def clusterIdOf (key : JsString) : JsString :=
  "cluster:sha256:".toList ++ boundedIdentityDigest (idPayload key)

structure SanitizedAnomalyObservation extends AnomalyObservation where
  clusterKey : JsString

/-- `dateParse` is `Date.parse`, `none` where it is `NaN`. -/
def sanitizeAnomalyObservation (dateParse : JsString → Option ℤ) (input : AnomalyObservation) :
    Except String SanitizedAnomalyObservation := do
  refuseIf (!isRunId input.runId) "CLUSTER_RUN_ID_INVALID"
  refuseIf (dateParse input.observedAt).isNone "CLUSTER_TIMESTAMP_INVALID"
  let features ← sanitizeFeatures input.features
  let key ← clusterKey boundedIdentityDigest input.fingerprint features input.timingClass
  return { input with features, clusterKey := key }

end Keys

section Orders

variable (rt : Runtime)

/-- By run, then by time, then by fingerprint. -/
def orderedLe (a b : SanitizedAnomalyObservation) : Prop :=
  lexLe (localeOrder rt) (lexLe (localeOrder rt) (localeOrder rt))
    (a.runId, a.observedAt, a.fingerprint) (b.runId, b.observedAt, b.fingerprint)

/-- By the text of the time, then by run, then by fingerprint. -/
def firstLe (a b : SanitizedAnomalyObservation) : Prop :=
  lexLe (localeOrder rt) (lexLe (localeOrder rt) (localeOrder rt))
    (a.observedAt, a.runId, a.fingerprint) (b.observedAt, b.runId, b.fingerprint)

def lastLe (a b : SanitizedAnomalyObservation) : Prop := firstLe rt b a

/-- `Number(b) - Number(a)` is not positive. -/
def flagLe (a b : Bool) : Prop := b.toNat ≤ a.toNat

instance : DecidableRel flagLe := fun a b => inferInstanceAs (Decidable (b.toNat ≤ a.toNat))

/-- The reproduced ones first, then the minimized ones, then by run and fingerprint. -/
def primaryLe (a b : SanitizedAnomalyObservation) : Prop :=
  lexLe flagLe (lexLe flagLe (lexLe (localeOrder rt) (localeOrder rt)))
    (a.reproduced, a.minimized, a.runId, a.fingerprint)
    (b.reproduced, b.minimized, b.runId, b.fingerprint)

instance : DecidableRel (orderedLe rt) := fun _ _ =>
  inferInstanceAs (Decidable (lexLe _ (lexLe _ _) _ _))

instance : DecidableRel (firstLe rt) := fun _ _ =>
  inferInstanceAs (Decidable (lexLe _ (lexLe _ _) _ _))

instance : DecidableRel (lastLe rt) := fun a b => inferInstanceAs (Decidable (firstLe rt b a))

instance : DecidableRel (primaryLe rt) := fun _ _ =>
  inferInstanceAs (Decidable (lexLe _ (lexLe _ (lexLe _ _)) _ _))

end Orders

section Clustering

structure AnomalyCluster where
  clusterId : JsString
  clusterKey : JsString
  fingerprint : JsString
  features : StableAnomalyFeatures
  occurrenceCount : ℕ
  reproductionCount : ℕ
  runIds : List JsString
  firstObserved : JsString
  lastObserved : JsString
  timingVariance : TimingClass
  primaryRunId : JsString
  knownFalsePositiveId : Option JsString

def timingVariance (items : List SanitizedAnomalyObservation) : TimingClass :=
  if items.any fun item => item.timingClass = some .transient then .transient
  else if items.any fun item => item.timingClass = some .bounded then .bounded
  else .none

/-- The least of the known ids, as `sort()` arranges them. -/
def knownId (items : List SanitizedAnomalyObservation) : Option JsString :=
  (sortedSet (items.filterMap fun item => item.knownFalsePositiveId)).head?

variable (rt : Runtime) (boundedIdentityDigest : JsValue → JsString)
  (dateParse : JsString → Option ℤ)

def bucketCluster (bucket : JsString × List SanitizedAnomalyObservation) : Option AnomalyCluster :=
  let (key, items) := bucket
  let ordered := items.insertionSort (orderedLe rt)
  (items.insertionSort (firstLe rt)).head?.bind fun first =>
  (items.insertionSort (lastLe rt)).head?.bind fun last =>
  (items.insertionSort (primaryLe rt)).head?.map fun primary =>
    { clusterId := clusterIdOf boundedIdentityDigest key
      clusterKey := key
      fingerprint := primary.fingerprint
      features := primary.features
      occurrenceCount := items.length
      reproductionCount := items.countP fun item => item.reproduced
      runIds := ordered.map fun item => item.runId
      firstObserved := first.observedAt
      lastObserved := last.observedAt
      timingVariance := timingVariance items
      primaryRunId := primary.runId
      knownFalsePositiveId := knownId items }

def sanitizeAll : List AnomalyObservation → Except String (List SanitizedAnomalyObservation)
  | [] => .ok []
  | input :: rest => do
      let sanitized ← sanitizeAnomalyObservation boundedIdentityDigest dateParse input
      let others ← sanitizeAll rest
      return sanitized :: others

def clusterIdLe (a b : AnomalyCluster) : Prop := localeOrder rt a.clusterId b.clusterId

instance : DecidableRel (clusterIdLe rt) := fun a b =>
  inferInstanceAs (Decidable (localeOrder rt a.clusterId b.clusterId))

def bucketClusters (sanitized : List SanitizedAnomalyObservation) : List AnomalyCluster :=
  (group (fun item => item.clusterKey) sanitized).filterMap
    (bucketCluster rt boundedIdentityDigest)

def clusterAnomalies (observations : List AnomalyObservation) :
    Except String (List AnomalyCluster) := do
  let sanitized ← sanitizeAll boundedIdentityDigest dateParse observations
  return (bucketClusters rt boundedIdentityDigest sanitized).insertionSort (clusterIdLe rt)

def suppressed (maxOccurrences : ℕ) (cluster : AnomalyCluster) : AnomalyCluster :=
  { cluster with
    runIds := cluster.runIds.take maxOccurrences
    occurrenceCount := min cluster.occurrenceCount maxOccurrences }

def suppressDuplicateClusters (clusters : List AnomalyCluster) (maxOccurrences : ℕ) :
    Except String (List AnomalyCluster) := do
  refuseIf (decide (maxOccurrences < 1)) "CLUSTER_RETENTION_INVALID"
  return clusters.map (suppressed maxOccurrences)

end Clustering

end NightWatch.Triage.AnomalyClusters
