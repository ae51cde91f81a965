import NightWatch.Lib.Guard
import NightWatch.Lib.JsonLayout
import NightWatch.Policy.EmbeddedScreening

namespace NightWatch.Campaign.ResumeTerminal

open Lib.JsText Lib.JsData Lib.JsRuntime Lib.JsonLayout Lib.Guard Policy.PrivateScreening
open JsValue (field)

abbrev Fields := List (JsString × JsValue)

abbrev Checked := Except JsString

def refuse {α : Type} (code : JsString) (reason : String) : Checked α :=
  .error (code ++ ':' :: reason.toList)

def demand (code : JsString) (reason : String) (condition : Bool) : Checked Unit :=
  if condition then .ok () else refuse code reason

def requireRuntimeRecord (value : JsValue) (code : JsString) : Checked Fields :=
  match value with
  | .obj fields => .ok fields
  | _ => refuse code "OBJECT_REQUIRED"

def requireRuntimeArray (value : JsValue) (code : JsString) : Checked (List JsValue) :=
  match value with
  | .arr items => .ok items
  | _ => refuse code "ARRAY_REQUIRED"

def hasOwn (record : Fields) (key : JsString) : Bool := (record.map Prod.fst).contains key

def assertExactKeys (record : Fields) (allowed : List JsString) (code : JsString)
    (optional : List JsString) : Checked Unit := do
  forEach (fun key => demand code "UNKNOWN_FIELD" ((allowed ++ optional).contains key))
    (record.map Prod.fst)
  forEach (fun key => demand code "MISSING_FIELD" (hasOwn record key)) allowed

def textOf : JsValue → Option JsString
  | .str s => some s
  | _ => none

/-- `value === text`. -/
def isExactly (value : JsValue) (text : JsString) : Bool := textOf value == some text

def assertString (value : JsValue) (code : JsString) : Checked Unit :=
  demand code "STRING_REQUIRED" (textOf value).isSome

def isNonNegativeInteger : JsValue → Bool
  | .num n => n.isFinite && n.isInteger && n.ge (.ofNat 0)
  | _ => false

def assertNonNegativeInteger (value : JsValue) (code : JsString) : Checked Unit :=
  demand code "NON_NEGATIVE_INTEGER_REQUIRED" (isNonNegativeInteger value)

/-- The loop over the values after those in `seen`. -/
def assertUniqueStrings (code : JsString) : List JsString → List JsValue → Checked Unit
  | _, [] => .ok ()
  | seen, .str s :: rest => do
      demand code "DUPLICATE" (!seen.contains s)
      assertUniqueStrings code (s :: seen) rest
  | _, _ :: _ => refuse code "STRING_REQUIRED"

def assertIsoTimestamp (rt : Runtime) (value : JsValue) (code : JsString) : Checked Unit :=
  match value with
  | .str s => demand code "TIMESTAMP_INVALID" (rt.parsesDate s)
  | _ => refuse code "STRING_REQUIRED"

def assertEnum (value : JsValue) (allowed : List JsString) (code : JsString) : Checked Unit :=
  demand code "ENUM_INVALID" (((textOf value).map allowed.contains).getD false)

def integrityCode : JsString := "CAMPAIGN_CHECKPOINT_INTEGRITY_INVALID".toList

def checkpointIntegrity {α : Type} (reason : JsString) : Checked α :=
  .error (integrityCode ++ ':' :: reason)

def holdsOr (reason : String) (condition : Bool) : Checked Unit :=
  if condition then .ok () else checkpointIntegrity reason.toList

section Checkpoints

def checkpointVersion : JsString := "nightwatch.campaign-checkpoint.private.v1".toList

def lifecycleVersion : JsString := "nightwatch.candidate-lifecycle.private.v1".toList

/-- `CAMPAIGN_RUNTIME_CONTRACT_VERSIONS_EXPECTED`, in the order of `RESUME_CONTRACT_SLOTS`. -/
def expectedContractVersions : List (JsString × JsString) :=
  [("candidateLifecycle".toList, lifecycleVersion),
    ("replayBinding".toList, "nightwatch.triage-replay-plan.private.v2".toList),
    ("promotionResult".toList, "nightwatch.promotion-result.private.v1".toList)]

def checkpointKeys : List JsString :=
  ["schemaVersion", "campaignId", "manifestFingerprint", "campaignStatus", "stopReason",
    "checkpointOrdinal", "sourceSnapshots", "selection", "selectedJourneys", "selectedEnvelopes",
    "selectedApiScenarios", "seedLedger", "budgetPolicy", "budgetUsed", "budgetRemaining",
    "executionLedger", "anomalyObservations", "anomalyCandidates", "anomalyClusters",
    "reproductionQueue", "minimizationQueue", "dossierLedger", "morningBriefStatus",
    "bugCandidates", "rejectedHypotheses", "unresolved", "safetyEvents", "safety", "privacy",
    "privacyStatus", "versionDrift", "completedWorkItemIds", "remainingWorkItemIds",
    "nextExactAction", "resumeRecipe", "executionGuarantees", "runtimeElapsedMs", "createdAt",
    "updatedAt"].map String.toList

def checkpointOptionalKeys : List JsString :=
  ["candidateLifecycles", "runtimeContractVersions", "interruptedWork", "workItemRetries",
    "replayReservations"].map String.toList

abbrev CampaignVersionFingerprint := List (JsString × JsString)

/-- `/^campaign:sha256:[a-f0-9]{24}$/i`. -/
def isCampaignId (campaignId : JsString) : Bool :=
  let lower := campaignId.map Char.toLower
  startsWith lower "campaign:sha256:".toList && (lower.drop 16).length == 24 &&
    (lower.drop 16).all fun c => c.isDigit || ('a' ≤ c && c ≤ 'f')

structure CampaignManifest where
  campaignId : JsString
  manifestFingerprint : JsString
  versions : CampaignVersionFingerprint
  named : isCampaignId campaignId = true

/-- The checks of a checkpoint that read neither its identity nor its contract versions, for the
manifest at hand. -/
structure OtherChecks where
  manifest : Checked Unit
  /-- From the status of the campaign to its reference ledgers. -/
  ledgers : Fields → Checked Unit
  safeReasonCode : JsString → Bool
  /-- From the interrupted work to the agreement of the status with the stop reason. -/
  closing : Fields → Checked Unit

variable (checks : OtherChecks)

def validateCandidateLifecycleRecord (value : JsValue) (code : JsString) : Checked Unit := do
  let record ← requireRuntimeRecord value code
  assertExactKeys record (["lifecycleVersion", "variant", "state", "transitionCount",
    "lastReasonCode"].map String.toList) code []
  holdsOr "CAMPAIGN_CHECKPOINT_LIFECYCLE_VERSION_UNSUPPORTED"
    (isExactly (field record "lifecycleVersion".toList) lifecycleVersion)
  assertEnum (field record "variant".toList) (["PROTOCOL_ONLY", "SEMANTIC"].map String.toList)
    (code ++ ":VARIANT".toList)
  assertEnum (field record "state".toList)
    (["OBSERVED", "ADMITTED", "REPRODUCED", "MINIMIZED", "CLUSTERED", "UNCHANGED", "TRIAGED",
      "DOSSIER_READY", "REJECTED", "UNRESOLVED"].map String.toList) (code ++ ":STATE".toList)
  assertNonNegativeInteger (field record "transitionCount".toList)
    (code ++ ":TRANSITION_COUNT".toList)
  match field record "lastReasonCode".toList with
  | .null => .ok ()
  | .str reason =>
      if checks.safeReasonCode reason then .ok ()
      else checkpointIntegrity (code ++ ":LAST_REASON_CODE_UNSAFE".toList)
  | _ => refuse (code ++ ":LAST_REASON_CODE".toList) "STRING_REQUIRED"

def checkContractVersions (versions : JsValue) : Checked Unit := do
  let contractVersions ← requireRuntimeRecord versions "CHECKPOINT_RUNTIME_CONTRACT_VERSIONS".toList
  assertExactKeys contractVersions (expectedContractVersions.map Prod.fst)
    "CHECKPOINT_RUNTIME_CONTRACT_VERSIONS".toList []
  forEach (fun slot => holdsOr "CAMPAIGN_CHECKPOINT_RUNTIME_CONTRACT_VERSION_UNSUPPORTED"
    (isExactly (field contractVersions slot.1) slot.2)) expectedContractVersions

def knownCluster (value : JsValue) : Checked (Option JsString) := do
  let record ← requireRuntimeRecord value "CHECKPOINT_CLUSTER".toList
  .ok (textOf (field record "clusterId".toList))

def checkLifecycles (lifecycles clusters : JsValue) : Checked Unit := do
  let records ← requireRuntimeRecord lifecycles "CHECKPOINT_CANDIDATE_LIFECYCLES".toList
  let ledger ← requireRuntimeArray clusters "CHECKPOINT_CLUSTERS".toList
  let known ← ledger.mapM knownCluster
  forEach (fun entry => do
    holdsOr "LIFECYCLE_CLUSTER_ID_EMPTY" (!entry.1.isEmpty)
    validateCandidateLifecycleRecord checks entry.2
      ("CHECKPOINT_CANDIDATE_LIFECYCLE:".toList ++ entry.1)
    if known.contains (some entry.1) then .ok ()
    else checkpointIntegrity ("UNKNOWN_LIFECYCLE_CLUSTER:".toList ++ entry.1)) records

def whenPresent (value : JsValue) (check : JsValue → Checked Unit) : Checked Unit :=
  if value.isUndefined then .ok () else check value

def validateSession2RuntimeContracts (checkpoint : Fields) : Checked Unit := do
  whenPresent (field checkpoint "runtimeContractVersions".toList) checkContractVersions
  whenPresent (field checkpoint "candidateLifecycles".toList) fun lifecycles =>
    checkLifecycles checks lifecycles (field checkpoint "anomalyClusters".toList)

variable (manifest : CampaignManifest)

def checkFields (checkpoint : Fields) : Checked Unit := do
  assertExactKeys checkpoint checkpointKeys integrityCode checkpointOptionalKeys
  holdsOr "SCHEMA_INVALID" (isExactly (field checkpoint "schemaVersion".toList) checkpointVersion)
  holdsOr "CAMPAIGN_ID_MISMATCH"
    (isExactly (field checkpoint "campaignId".toList) manifest.campaignId)
  holdsOr "MANIFEST_FINGERPRINT_MISMATCH"
    (isExactly (field checkpoint "manifestFingerprint".toList) manifest.manifestFingerprint)
  checks.ledgers checkpoint
  validateSession2RuntimeContracts checks checkpoint
  checks.closing checkpoint

def rethrown (checked : Checked Unit) : Checked Unit :=
  match checked with
  | .ok () => .ok ()
  | .error message =>
      if startsWith message (integrityCode ++ [':']) then .error message
      else checkpointIntegrity message

def validateCampaignCheckpoint (value : JsValue) : Checked Unit := do
  checks.manifest
  let checkpoint ← requireRuntimeRecord value integrityCode
  rethrown (checkFields checks manifest checkpoint)

inductive CheckpointResumeDriftKind where
  | none_
  | checkpointSchemaVersionDrift
  | campaignIdentityDrift
  | checkpointRuntimeContractVersionDrift
  | candidateLifecycleVersionDrift

structure CheckpointResumeDriftReport where
  compatible : Bool
  kind : CheckpointResumeDriftKind
  driftedFields : List JsString

variable (rt : Runtime)

def sorted (names : List JsString) : List JsString := names.mergeSort rt.localeLe

def driftOr (kind : CheckpointResumeDriftKind) (drifted : List JsString)
    (rest : CheckpointResumeDriftReport) : CheckpointResumeDriftReport :=
  if drifted.isEmpty then rest else ⟨false, kind, sorted rt drifted⟩

def identityDrift (checkpoint : Fields) : List JsString :=
  ([("campaignId".toList, manifest.campaignId),
    ("manifestFingerprint".toList, manifest.manifestFingerprint)].filter fun bound =>
      !isExactly (field checkpoint bound.1) bound.2).map Prod.fst

def contractDrift (versions : JsValue) : List JsString :=
  match versions with
  | .undefined => []
  | .obj slots => (expectedContractVersions.filter fun slot =>
      !isExactly (field slots slot.1) slot.2).map Prod.fst
  | _ => ["runtimeContractVersions".toList]

def isCurrentLifecycle : JsValue → Bool
  | .obj record => isExactly (field record "lifecycleVersion".toList) lifecycleVersion
  | _ => false

def lifecycleDrift (lifecycles : JsValue) : List JsString :=
  match lifecycles with
  | .undefined => []
  | .obj records => (records.filter fun entry => !isCurrentLifecycle entry.2).map Prod.fst
  | _ => ["candidateLifecycles".toList]

def classifyCheckpointResumeDrift (checkpoint : JsValue) : CheckpointResumeDriftReport :=
  match checkpoint with
  | .obj record =>
      driftOr rt .checkpointSchemaVersionDrift
        (if isExactly (field record "schemaVersion".toList) checkpointVersion then []
          else ["schemaVersion".toList])
        (driftOr rt .campaignIdentityDrift (identityDrift manifest record)
          (driftOr rt .checkpointRuntimeContractVersionDrift
            (contractDrift (field record "runtimeContractVersions".toList))
            (driftOr rt .candidateLifecycleVersionDrift
              (lifecycleDrift (field record "candidateLifecycles".toList)) ⟨true, .none_, []⟩)))
  | _ => ⟨false, .checkpointSchemaVersionDrift, ["schemaVersion".toList]⟩

end Checkpoints

section Explanations

variable (rt : Runtime) (manifest : CampaignManifest)

structure CheckpointDifferingVersion where
  component : JsString
  found : Option JsString
  expected : Option JsString

structure CheckpointResumeExplanation where
  campaignIdentity : Option JsString
  differingVersions : List CheckpointDifferingVersion
  completedWorkItems : List JsString
  completedWorkItemCount : Nat
  remainingWorkItemCount : Nat
  restartConsumable : Bool
  restartReason : JsString
  terminal : Bool

def stringArrayOf : JsValue → List JsString
  | .arr items => items.filterMap textOf
  | _ => []

mutual

/-- `String(value)` needs the method `toString` of every object it reaches, and an own field of
that name hides it. -/
def convertible : JsValue → Bool
  | .obj fields => !hasOwn fields "toString".toList
  | .arr items => convertibleItems items
  | _ => true

def convertibleItems : List JsValue → Bool
  | [] => true
  | item :: rest => convertible item && convertibleItems rest

end

/-- `String(value ?? '')`. -/
def shownText (value : JsValue) : Checked JsString :=
  if value.isNullish then .ok []
  else if convertible value then .ok (stringOf rt value)
  else .error "Cannot convert object to primitive value".toList

def boundEntry (record : Option Fields) (name expected : JsString) :
    Checked (List CheckpointDifferingVersion) :=
  match record with
  | none => .ok [⟨name, none, some expected⟩]
  | some fields =>
      if isExactly (field fields name) expected then .ok []
      else do
        let found ← shownText rt (field fields name)
        .ok [⟨name, some found, some expected⟩]

def schemaEntry (record : Option Fields) : List CheckpointDifferingVersion :=
  let found := record.bind fun fields => textOf (field fields "schemaVersion".toList)
  if found = some checkpointVersion then []
  else [⟨"schemaVersion".toList, found, some checkpointVersion⟩]

def contractEntries (versions : JsValue) : List CheckpointDifferingVersion :=
  match versions with
  | .undefined => []
  | .obj slots => expectedContractVersions.filterMap fun slot =>
      let found := textOf (field slots slot.1)
      if found = some slot.2 then none else some ⟨slot.1, found, some slot.2⟩
  | _ => [⟨"runtimeContractVersions".toList, none, none⟩]

def foundLifecycle : JsValue → Option JsString
  | .obj record => textOf (field record "lifecycleVersion".toList)
  | _ => none

def lifecycleEntries (lifecycles : JsValue) : List CheckpointDifferingVersion :=
  match lifecycles with
  | .obj records => records.filterMap fun entry =>
      if foundLifecycle entry.2 = some lifecycleVersion then none
      else some ⟨"candidateLifecycle:".toList ++ entry.1, foundLifecycle entry.2,
        some lifecycleVersion⟩
  | _ => []

def classifyVersionFingerprintDrift (current expected : CampaignVersionFingerprint) :
    List JsString :=
  sorted rt ((current.map Prod.fst ++ expected.map Prod.fst).dedup.filter fun slot =>
    current.lookup slot ≠ expected.lookup slot)

def fingerprintEntries (current : Option CampaignVersionFingerprint) :
    List CheckpointDifferingVersion :=
  match current with
  | none => []
  | some versions => (classifyVersionFingerprintDrift rt versions manifest.versions).map fun slot =>
      ⟨"versionFingerprint:".toList ++ slot, versions.lookup slot, manifest.versions.lookup slot⟩

def recordOf : JsValue → Option Fields
  | .obj fields => some fields
  | _ => none

def ofRecord (record : Option Fields) (name : String) : JsValue :=
  (record.map fun fields => field fields name.toList).getD .undefined

def checkpointReadable (record : Option Fields) : Bool :=
  isExactly (ofRecord record "schemaVersion") checkpointVersion &&
    isExactly (ofRecord record "campaignId") manifest.campaignId &&
    isExactly (ofRecord record "manifestFingerprint") manifest.manifestFingerprint

def restartReason (readable : Bool) : JsString :=
  if readable then
    "the checkpoint document is current and identity-bound; a restart can consume the completed ledger".toList
  else
    "the checkpoint document cannot be read under the current contract; the completed ledger is not consumable and the campaign is terminal".toList

def explanationFor (checkpoint : JsValue) (current : Option CampaignVersionFingerprint) :
    Checked CheckpointResumeExplanation := do
  let record := recordOf checkpoint
  let identity ← boundEntry rt record "campaignId".toList manifest.campaignId
  let fingerprint ← boundEntry rt record "manifestFingerprint".toList manifest.manifestFingerprint
  let completed := sorted rt (stringArrayOf (ofRecord record "completedWorkItemIds"))
  let readable := checkpointReadable manifest record
  .ok
    { campaignIdentity :=
        some ((textOf (ofRecord record "campaignId")).getD manifest.campaignId)
      differingVersions := schemaEntry record ++ identity ++ fingerprint ++
        contractEntries (ofRecord record "runtimeContractVersions") ++
        lifecycleEntries (ofRecord record "candidateLifecycles") ++
        fingerprintEntries rt manifest current
      completedWorkItems := completed
      completedWorkItemCount := completed.length
      remainingWorkItemCount := (stringArrayOf (ofRecord record "remainingWorkItemIds")).length
      restartConsumable := readable
      restartReason := restartReason readable
      terminal := !readable }

end Explanations

section Records

variable (rt : Runtime)

def resumeTerminalVersion : JsString := "nightwatch.campaign-resume-terminal.v1".toList

/-- What `new Date().toISOString()` returns. -/
structure Instant where
  text : JsString
  parses : rt.parsesDate text = true

structure CampaignResumeTerminalRecord where
  schemaVersion : JsString
  campaignId : JsString
  reason : JsString
  differingVersions : List CheckpointDifferingVersion
  completedWorkItems : List JsString
  completedWorkItemCount : Nat
  restartConsumable : Bool
  recordedAt : JsString

def buildCampaignResumeTerminalRecord (explanation : CheckpointResumeExplanation)
    (recordedAt : JsString) : Checked CampaignResumeTerminalRecord :=
  match explanation.campaignIdentity with
  | none | some [] => .error "CAMPAIGN_RESUME_TERMINAL_IDENTITY_MISSING".toList
  | some campaignId => .ok
      { schemaVersion := resumeTerminalVersion
        campaignId
        reason := explanation.restartReason
        differingVersions := explanation.differingVersions
        completedWorkItems := explanation.completedWorkItems
        completedWorkItemCount := explanation.completedWorkItemCount
        restartConsumable := false
        recordedAt }

def orNull : Option JsString → JsValue
  | some s => .str s
  | none => .null

def CheckpointDifferingVersion.value (version : CheckpointDifferingVersion) : JsValue :=
  .obj [("component".toList, .str version.component), ("found".toList, orNull version.found),
    ("expected".toList, orNull version.expected)]

def CampaignResumeTerminalRecord.fields (record : CampaignResumeTerminalRecord) : Fields :=
  [("schemaVersion".toList, .str record.schemaVersion),
    ("campaignId".toList, .str record.campaignId),
    ("reason".toList, .str record.reason),
    ("differingVersions".toList, .arr (record.differingVersions.map (·.value))),
    ("completedWorkItems".toList, .arr (record.completedWorkItems.map .str)),
    ("completedWorkItemCount".toList, .num (.ofNat record.completedWorkItemCount)),
    ("restartConsumable".toList, .bool record.restartConsumable),
    ("recordedAt".toList, .str record.recordedAt)]

def CampaignResumeTerminalRecord.value (record : CampaignResumeTerminalRecord) : JsValue :=
  .obj record.fields

def resumeTerminalKeys : List JsString :=
  ["schemaVersion", "campaignId", "reason", "differingVersions", "completedWorkItems",
    "completedWorkItemCount", "restartConsumable", "recordedAt"].map String.toList

def assertNullableString (value : JsValue) (code : JsString) : Checked Unit :=
  match value with
  | .null => .ok ()
  | value => assertString value code

def checkDifferingVersion (entry : JsValue) : Checked Unit := do
  let item ← requireRuntimeRecord entry "CAMPAIGN_RESUME_TERMINAL_DIFFERING_ENTRY".toList
  assertExactKeys item (["component", "found", "expected"].map String.toList)
    "CAMPAIGN_RESUME_TERMINAL_DIFFERING_ENTRY".toList []
  assertString (field item "component".toList)
    "CAMPAIGN_RESUME_TERMINAL_DIFFERING_COMPONENT".toList
  assertNullableString (field item "found".toList)
    "CAMPAIGN_RESUME_TERMINAL_DIFFERING_FOUND".toList
  assertNullableString (field item "expected".toList)
    "CAMPAIGN_RESUME_TERMINAL_DIFFERING_EXPECTED".toList

def checkConsumable : JsValue → Checked Unit
  | .bool consumable => holdsOr "RESUME_TERMINAL_CLAIMS_CONSUMABLE" (!consumable)
  | _ => refuse "CAMPAIGN_RESUME_TERMINAL_CONSUMABLE".toList "BOOLEAN_REQUIRED"

/-- `value === count`. -/
def isCount (value : JsValue) (count : Nat) : Bool :=
  match value with
  | .num n => n == .ofNat count
  | _ => false

def validateCampaignResumeTerminalRecord (value : JsValue) : Checked JsValue := do
  let record ← requireRuntimeRecord value "CAMPAIGN_RESUME_TERMINAL".toList
  assertExactKeys record resumeTerminalKeys "CAMPAIGN_RESUME_TERMINAL".toList []
  holdsOr "RESUME_TERMINAL_SCHEMA_INVALID"
    (isExactly (field record "schemaVersion".toList) resumeTerminalVersion)
  assertString (field record "campaignId".toList) "CAMPAIGN_RESUME_TERMINAL_ID".toList
  assertString (field record "reason".toList) "CAMPAIGN_RESUME_TERMINAL_REASON".toList
  checkConsumable (field record "restartConsumable".toList)
  assertIsoTimestamp rt (field record "recordedAt".toList)
    "CAMPAIGN_RESUME_TERMINAL_RECORDED_AT".toList
  let differing ← requireRuntimeArray (field record "differingVersions".toList)
    "CAMPAIGN_RESUME_TERMINAL_DIFFERING".toList
  forEach checkDifferingVersion differing
  let completed ← requireRuntimeArray (field record "completedWorkItems".toList)
    "CAMPAIGN_RESUME_TERMINAL_COMPLETED".toList
  assertUniqueStrings "CAMPAIGN_RESUME_TERMINAL_COMPLETED".toList [] completed
  forEach (assertString · "CAMPAIGN_RESUME_TERMINAL_COMPLETED_ID".toList) completed
  assertNonNegativeInteger (field record "completedWorkItemCount".toList)
    "CAMPAIGN_RESUME_TERMINAL_COMPLETED_COUNT".toList
  holdsOr "RESUME_TERMINAL_COMPLETED_COUNT_MISMATCH"
    (isCount (field record "completedWorkItemCount".toList) completed.length)
  .ok value

end Records

section Stores

variable (rt : Runtime) (nf : Normalization)

/-- The two files of a campaign: the checkpoint as it reads back, and the text of the terminal
marker. -/
structure CampaignFiles where
  checkpoint : Option JsValue
  terminal : Option JsString

mutual

def plain : JsValue → PlainValue
  | .undefined | .null => .null
  | .bool b => .bool b
  | .num (.finite q) => .num q
  | .num _ => .null
  | .str s => .str s
  | .arr items => .arr (plainItems items)
  | .obj fields => .obj (plainFields fields)

def plainItems : List JsValue → List PlainValue
  | [] => []
  | v :: rest => plain v :: plainItems rest

def plainFields : List (JsString × JsValue) → List (JsString × PlainValue)
  | [] => []
  | (key, v) :: rest => (key, plain v) :: plainFields rest

end

/-- `wrapper[key]` on whatever was read. -/
def property (value : JsValue) (key : JsString) : JsValue :=
  match value with
  | .obj fields => field fields key
  | _ => .undefined

def readResumeTerminal (files : CampaignFiles) : Checked (Option JsValue) :=
  match files.terminal.bind parseLaidOut with
  | none | some .null => .ok none
  | some raw =>
      (validateCampaignResumeTerminalRecord rt (property raw "resumeTerminal".toList)).map some

def artifactText (fields : Fields) : JsString :=
  stringifyLines (.obj (fields ++ [("status".toList, .str "READY".toList)])) ++ ['\n']

def writeImmutableJson (files : CampaignFiles) (fields : Fields) : Checked CampaignFiles :=
  if containsPrivatePayload rt nf (plain (.obj fields)) then
    .error "PRIVATE_ARTIFACT_PRIVACY_BLOCKED".toList
  else
    match files.terminal with
    | some _ => .error "PRIVATE_ARTIFACT_IMMUTABLE".toList
    | none => .ok { files with terminal := some (artifactText fields) }

def writeResumeTerminal (files : CampaignFiles) (record : CampaignResumeTerminalRecord) :
    Checked (JsValue × CampaignFiles) := do
  let _ ← validateCampaignResumeTerminalRecord rt record.value
  match writeImmutableJson rt nf files [("resumeTerminal".toList, record.value)] with
  | .ok files' => .ok (record.value, files')
  | .error message =>
      if includes message "PRIVATE_ARTIFACT_IMMUTABLE".toList then
        match ← readResumeTerminal rt files with
        | some existing => .ok (existing, files)
        | none => .error message
      else .error message

end Stores

section Resumes

variable (rt : Runtime) (nf : Normalization)

/-- What a call of `resumeCampaign` comes with. -/
structure Attempt where
  manifest : CampaignManifest
  checks : OtherChecks
  current : Option CampaignVersionFingerprint
  now : Instant rt

/-- How a call of `resumeCampaign` ends: the campaign runs on, or one of the errors is thrown. -/
inductive Outcome where
  | runs (checkpoint : JsValue)
  | terminal (record : JsValue)
  | refused (explanation : CheckpointResumeExplanation)
  | failed (message : JsString)

variable {rt}

def assertManifestCompatible (manifest : CampaignManifest) (checkpoint : JsValue) : Checked Unit :=
  if isExactly (property checkpoint "campaignId".toList) manifest.campaignId &&
      isExactly (property checkpoint "manifestFingerprint".toList) manifest.manifestFingerprint then
    .ok ()
  else .error "CAMPAIGN_VERSION_DRIFT".toList

def readCheckpoint (attempt : Attempt rt) (files : CampaignFiles) : Checked JsValue :=
  match files.checkpoint with
  | none => .error "CAMPAIGN_ARTIFACT_INVALID:checkpoint:MALFORMED_JSON".toList
  | some raw => do
      validateCampaignCheckpoint attempt.checks attempt.manifest raw
      assertManifestCompatible attempt.manifest raw
      .ok raw

def refuseResume (attempt : Attempt rt) (files : CampaignFiles) (raw : JsValue) :
    Outcome × CampaignFiles :=
  match explanationFor rt attempt.manifest raw attempt.current with
  | .error message => (.failed message, files)
  | .ok explanation =>
      if explanation.terminal then
        match buildCampaignResumeTerminalRecord explanation attempt.now.text >>=
          writeResumeTerminal rt nf files with
        | .ok (record, files') => (.terminal record, files')
        | .error message => (.failed message, files)
      else (.refused explanation, files)

def resumeCampaign (attempt : Attempt rt) (files : CampaignFiles) : Outcome × CampaignFiles :=
  match readResumeTerminal rt files with
  | .error message => (.failed message, files)
  | .ok (some record) => (.terminal record, files)
  | .ok none =>
      match readCheckpoint attempt files, files.checkpoint with
      | .ok checkpoint, _ => (.runs checkpoint, files)
      | .error _, some raw => refuseResume nf attempt files raw
      | .error message, none => (.failed message, files)

inductive Event (rt : Runtime) where
  | resumed (attempt : Attempt rt)
  | rewritten (checkpoint : Option JsValue)

def happens (files : CampaignFiles) : Event rt → CampaignFiles
  | .resumed attempt => (resumeCampaign nf attempt files).2
  | .rewritten checkpoint => { files with checkpoint }

def after (files : CampaignFiles) (events : List (Event rt)) : CampaignFiles :=
  events.foldl (happens nf) files

end Resumes

section Guards

variable {code : JsString} {reason : String} {α : Type} {condition : Bool} {value : JsValue}

theorem then_eq_ok {x : Checked Unit} {y : Checked α} {a : α} :
    (x >>= fun _ => y) = .ok a ↔ x = .ok () ∧ y = .ok a := by
  rw [bind_eq_ok]
  constructor
  · rintro ⟨_, hx, hy⟩
    exact ⟨hx, hy⟩
  · rintro ⟨hx, hy⟩
    exact ⟨(), hx, hy⟩

theorem ok_bind {β : Type} (a : α) (f : α → Checked β) :
    ((Except.ok a : Checked α) >>= f) = f a := rfl

theorem demand_eq_ok : demand code reason condition = .ok () ↔ condition = true := by
  cases condition with
  | false => simp [demand, refuse]
  | true => simp [demand]

theorem holdsOr_eq_ok : holdsOr reason condition = .ok () ↔ condition = true := by
  cases condition with
  | false => simp [holdsOr, checkpointIntegrity]
  | true => simp [holdsOr]

theorem requireRuntimeRecord_eq_ok {record : Fields} :
    requireRuntimeRecord value code = .ok record ↔ value = .obj record := by
  cases value <;> simp [requireRuntimeRecord, refuse]

theorem isExactly_iff {text : JsString} : isExactly value text = true ↔ value = .str text := by
  cases value <;> simp [isExactly, textOf]

theorem uniqueStrings_iff {texts seen : List JsString} :
    assertUniqueStrings code seen (texts.map .str) = .ok () ↔
      texts.Nodup ∧ ∀ s ∈ texts, s ∉ seen := by
  induction texts generalizing seen with
  | nil => simp [assertUniqueStrings]
  | cons s texts ih =>
      rw [List.map_cons, assertUniqueStrings, then_eq_ok, demand_eq_ok, ih, List.nodup_cons]
      constructor
      · rintro ⟨hnew, hnodup, hseen⟩
        refine ⟨⟨fun hmem => hseen s hmem (by simp), hnodup⟩, ?_⟩
        intro t ht
        rcases List.mem_cons.mp ht with rfl | ht
        · simpa using hnew
        · exact fun hin => hseen t ht (List.mem_cons_of_mem _ hin)
      · rintro ⟨⟨hnot, hnodup⟩, hseen⟩
        refine ⟨by simpa using hseen s (by simp), hnodup, ?_⟩
        intro t ht hin
        rcases List.mem_cons.mp hin with rfl | hin
        · exact hnot ht
        · exact hseen t (List.mem_cons_of_mem _ ht) hin

theorem assertStrings_map (texts : List JsString) :
    forEach (assertString · code) (texts.map .str) = .ok () := by
  rw [forEach_eq_ok]
  rintro _ hmem
  obtain ⟨s, -, rfl⟩ := List.mem_map.mp hmem
  rfl

end Guards

section Accepted

variable {rt : Runtime} {checks : OtherChecks} {manifest : CampaignManifest} {raw : JsValue}

theorem checked_of_accepted (h : validateCampaignCheckpoint checks manifest raw = .ok ()) :
    ∃ record, raw = .obj record ∧ checkFields checks manifest record = .ok () := by
  rw [validateCampaignCheckpoint, then_eq_ok, bind_eq_ok] at h
  obtain ⟨-, record, hrecord, h⟩ := h
  refine ⟨record, requireRuntimeRecord_eq_ok.mp hrecord, ?_⟩
  cases hchecked : checkFields checks manifest record with
  | ok _ => rfl
  | error message =>
      rw [hchecked, rethrown] at h
      split at h <;> contradiction

theorem bound_of_checked {record : Fields} (h : checkFields checks manifest record = .ok ()) :
    checkpointReadable manifest (some record) = true ∧
      validateSession2RuntimeContracts checks record = .ok () := by
  simp only [checkFields, then_eq_ok, holdsOr_eq_ok] at h
  obtain ⟨-, hschema, hid, hfingerprint, -, hcontracts, -⟩ := h
  refine ⟨?_, hcontracts⟩
  simp only [checkpointReadable, ofRecord, Option.map_some, Option.getD_some, Bool.and_eq_true]
  exact ⟨⟨hschema, hid⟩, hfingerprint⟩

theorem contractDrift_eq_nil {versions : JsValue} (h : checkContractVersions versions = .ok ()) :
    contractDrift versions = [] := by
  rw [checkContractVersions, bind_eq_ok] at h
  obtain ⟨slots, hslots, h⟩ := h
  obtain rfl := requireRuntimeRecord_eq_ok.mp hslots
  rw [then_eq_ok, forEach_eq_ok] at h
  rw [contractDrift, List.map_eq_nil_iff, List.filter_eq_nil_iff]
  intro slot hslot
  rw [holdsOr_eq_ok.mp (h.2 slot hslot)]
  decide

theorem current_of_validated {value : JsValue} {code : JsString}
    (h : validateCandidateLifecycleRecord checks value code = .ok ()) :
    isCurrentLifecycle value = true := by
  rw [validateCandidateLifecycleRecord, bind_eq_ok] at h
  obtain ⟨record, hrecord, h⟩ := h
  obtain rfl := requireRuntimeRecord_eq_ok.mp hrecord
  rw [then_eq_ok, then_eq_ok] at h
  exact holdsOr_eq_ok.mp h.2.1

theorem lifecycleDrift_eq_nil {lifecycles clusters : JsValue}
    (h : checkLifecycles checks lifecycles clusters = .ok ()) : lifecycleDrift lifecycles = [] := by
  simp only [checkLifecycles, bind_eq_ok] at h
  obtain ⟨records, hrecords, ledger, -, known, -, h⟩ := h
  obtain rfl := requireRuntimeRecord_eq_ok.mp hrecords
  rw [lifecycleDrift, List.map_eq_nil_iff, List.filter_eq_nil_iff]
  intro entry hentry
  have hentry := forEach_eq_ok.mp h entry hentry
  rw [then_eq_ok, then_eq_ok] at hentry
  rw [current_of_validated hentry.2.1]
  decide

theorem compatible_of_accepted (h : validateCampaignCheckpoint checks manifest raw = .ok ()) :
    (classifyCheckpointResumeDrift manifest rt raw).compatible = true := by
  obtain ⟨record, rfl, hchecked⟩ := checked_of_accepted h
  obtain ⟨hreadable, hcontracts⟩ := bound_of_checked hchecked
  simp only [checkpointReadable, ofRecord, Option.map_some, Option.getD_some,
    Bool.and_eq_true] at hreadable
  obtain ⟨⟨hschema, hid⟩, hfingerprint⟩ := hreadable
  rw [validateSession2RuntimeContracts, then_eq_ok] at hcontracts
  obtain ⟨hversions, hlifecycles⟩ := hcontracts
  have hidentity : identityDrift manifest record = [] := by
    simp only [identityDrift, List.filter, hid, hfingerprint, Bool.not_true, List.map_nil]
  have hcontract : contractDrift (field record "runtimeContractVersions".toList) = [] := by
    cases hvalue : field record "runtimeContractVersions".toList with
    | undefined => rfl
    | null | bool | num | str | arr | obj =>
        rw [hvalue] at hversions
        exact contractDrift_eq_nil hversions
  have hlifecycle : lifecycleDrift (field record "candidateLifecycles".toList) = [] := by
    cases hvalue : field record "candidateLifecycles".toList with
    | undefined => rfl
    | null | bool | num | str | arr | obj =>
        rw [hvalue] at hlifecycles
        exact lifecycleDrift_eq_nil hlifecycles
  simp only [classifyCheckpointResumeDrift, driftOr, hschema, hidentity, hcontract, hlifecycle,
    if_true, List.isEmpty_nil]

theorem refused_of_unreadable (checks : OtherChecks)
    (h : checkpointReadable manifest (recordOf raw) = false) :
    ∃ message, validateCampaignCheckpoint checks manifest raw = .error message := by
  cases haccepted : validateCampaignCheckpoint checks manifest raw with
  | error message => exact ⟨message, rfl⟩
  | ok _ =>
      obtain ⟨record, rfl, hchecked⟩ := checked_of_accepted haccepted
      rw [recordOf, (bound_of_checked hchecked).1] at h
      contradiction

end Accepted

section Explained

variable {rt : Runtime} {manifest : CampaignManifest} {raw : JsValue}
  {current : Option CampaignVersionFingerprint}

theorem convertible_of_nullish {value : JsValue} (h : value.isNullish = true) :
    convertible value = true := by
  cases value <;> first | rfl | contradiction

theorem boundEntry_isOk (rt : Runtime) (record : Option Fields) (expected : JsString)
    {name : String} : (∃ entries, boundEntry rt record name.toList expected = .ok entries) ↔
      convertible (ofRecord record name) = true := by
  cases record with
  | none => exact ⟨fun _ => rfl, fun _ => ⟨_, rfl⟩⟩
  | some fields =>
      rw [boundEntry, ofRecord, Option.map_some, Option.getD_some]
      by_cases hexact : isExactly (field fields name.toList) expected = true
      · rw [if_pos hexact, isExactly_iff.mp hexact]
        exact ⟨fun _ => rfl, fun _ => ⟨_, rfl⟩⟩
      · simp only [if_neg hexact, shownText]
        by_cases hnullish : (field fields name.toList).isNullish = true
        · rw [if_pos hnullish]
          exact ⟨fun _ => convertible_of_nullish hnullish, fun _ => ⟨_, rfl⟩⟩
        · rw [if_neg hnullish]
          by_cases hconverts : convertible (field fields name.toList) = true
          · rw [if_pos hconverts]
            exact ⟨fun _ => hconverts, fun _ => ⟨_, rfl⟩⟩
          · rw [if_neg hconverts]
            constructor
            · rintro ⟨_, h⟩
              contradiction
            · exact fun h => absurd h hconverts

theorem explanationFor_isOk (rt : Runtime) (manifest : CampaignManifest) (raw : JsValue)
    (current : Option CampaignVersionFingerprint) :
    (∃ explanation, explanationFor rt manifest raw current = .ok explanation) ↔
      convertible (ofRecord (recordOf raw) "campaignId") = true ∧
        convertible (ofRecord (recordOf raw) "manifestFingerprint") = true := by
  rw [← boundEntry_isOk rt _ manifest.campaignId, ← boundEntry_isOk rt _ manifest.manifestFingerprint]
  simp only [explanationFor, bind_eq_ok]
  constructor
  · rintro ⟨_, identity, hidentity, fingerprint, hfingerprint, -⟩
    exact ⟨⟨_, hidentity⟩, _, hfingerprint⟩
  · rintro ⟨⟨identity, hidentity⟩, fingerprint, hfingerprint⟩
    exact ⟨_, identity, hidentity, fingerprint, hfingerprint, rfl⟩

/-- What an explanation says of the identity, the ledger and the restart. -/
structure Explains (rt : Runtime) (manifest : CampaignManifest) (raw : JsValue)
    (explanation : CheckpointResumeExplanation) : Prop where
  identity : explanation.campaignIdentity =
    some ((textOf (ofRecord (recordOf raw) "campaignId")).getD manifest.campaignId)
  completed : explanation.completedWorkItems =
    sorted rt (stringArrayOf (ofRecord (recordOf raw) "completedWorkItemIds"))
  count : explanation.completedWorkItemCount = explanation.completedWorkItems.length
  terminal : explanation.terminal = !checkpointReadable manifest (recordOf raw)

theorem explains_of_ok {explanation : CheckpointResumeExplanation}
    (h : explanationFor rt manifest raw current = .ok explanation) :
    Explains rt manifest raw explanation := by
  simp only [explanationFor, bind_eq_ok] at h
  obtain ⟨identity, -, fingerprint, -, h⟩ := h
  obtain rfl := Except.ok.inj h
  exact ⟨rfl, rfl, rfl, rfl⟩

theorem campaignId_ne_nil (manifest : CampaignManifest) : manifest.campaignId ≠ [] := by
  intro hnil
  have hnamed := manifest.named
  rw [hnil] at hnamed
  revert hnamed
  decide

theorem identity_eq_nil_iff (manifest : CampaignManifest) {value : JsValue} :
    (textOf value).getD manifest.campaignId = [] ↔ value = .str [] := by
  cases value <;> simp [textOf, campaignId_ne_nil]

end Explained

section Built

variable {rt : Runtime} {explanation : CheckpointResumeExplanation} {now : JsString}
  {record : CampaignResumeTerminalRecord}

theorem build_eq_ok : buildCampaignResumeTerminalRecord explanation now = .ok record ↔
    ∃ campaignId ≠ [], explanation.campaignIdentity = some campaignId ∧
      record = ⟨resumeTerminalVersion, campaignId, explanation.restartReason,
        explanation.differingVersions, explanation.completedWorkItems,
        explanation.completedWorkItemCount, false, now⟩ := by
  rw [buildCampaignResumeTerminalRecord]
  rcases explanation.campaignIdentity with _ | _ | ⟨c, rest⟩
  · simp
  · simp
  · simp [eq_comm]

theorem checkDifferingVersion_value (version : CheckpointDifferingVersion) :
    checkDifferingVersion version.value = .ok () := by
  obtain ⟨component, found, expected⟩ := version
  cases found <;> cases expected <;> rfl

theorem assertExactKeys_fields (record : CampaignResumeTerminalRecord) {code : JsString} :
    assertExactKeys record.fields resumeTerminalKeys code [] = .ok () := rfl

theorem isNonNegativeInteger_ofNat (n : Nat) : isNonNegativeInteger (.num (.ofNat n)) = true := by
  simp [isNonNegativeInteger, JsNumber.ofNat, JsNumber.isFinite, JsNumber.isInteger, JsNumber.ge,
    JsNumber.lt]

theorem validate_built_iff (hcount : record.completedWorkItemCount =
    record.completedWorkItems.length) (hversion : record.schemaVersion = resumeTerminalVersion)
    (hconsumable : record.restartConsumable = false)
    (hparses : rt.parsesDate record.recordedAt = true) :
    validateCampaignResumeTerminalRecord rt record.value = .ok record.value ↔
      record.completedWorkItems.Nodup := by
  have hrecord (code : JsString) : requireRuntimeRecord record.value code = .ok record.fields := rfl
  have hdiffering (code : JsString) :
      requireRuntimeArray (field record.fields "differingVersions".toList) code =
        .ok (record.differingVersions.map (·.value)) := rfl
  have hcompleted (code : JsString) :
      requireRuntimeArray (field record.fields "completedWorkItems".toList) code =
        .ok (record.completedWorkItems.map .str) := rfl
  rw [validateCampaignResumeTerminalRecord, hrecord, ok_bind, then_eq_ok, then_eq_ok, then_eq_ok,
    then_eq_ok, then_eq_ok, then_eq_ok, hdiffering, ok_bind, then_eq_ok, hcompleted, ok_bind,
    then_eq_ok, then_eq_ok, then_eq_ok, then_eq_ok, uniqueStrings_iff]
  constructor
  · rintro ⟨-, -, -, -, -, -, -, ⟨hnodup, -⟩, -⟩
    exact hnodup
  · intro hnodup
    refine ⟨assertExactKeys_fields record, holdsOr_eq_ok.mpr (isExactly_iff.mpr ?_), rfl, rfl, ?_,
      ?_, ?_, ⟨hnodup, by simp⟩, assertStrings_map _, ?_, holdsOr_eq_ok.mpr ?_, rfl⟩
    · exact congrArg JsValue.str hversion
    · show checkConsumable (.bool record.restartConsumable) = .ok ()
      rw [hconsumable]
      rfl
    · exact demand_eq_ok.mpr hparses
    · rw [forEach_eq_ok]
      intro entry hentry
      obtain ⟨version, -, rfl⟩ := List.mem_map.mp hentry
      exact checkDifferingVersion_value version
    · exact demand_eq_ok.mpr (isNonNegativeInteger_ofNat _)
    · rw [List.length_map, ← hcount]
      exact beq_self_eq_true _

end Built

section Markers

variable {rt : Runtime} {nf : Normalization} {record : CampaignResumeTerminalRecord}

theorem isData_orNull (text : Option JsString) : IsData (orNull text) := by
  cases text with
  | none => exact .null
  | some s => exact .str s

theorem isData_version (version : CheckpointDifferingVersion) : IsData version.value := by
  refine .obj ?_
  simp [isData_orNull, IsData.str]

theorem isData_value (record : CampaignResumeTerminalRecord) : IsData record.value := by
  have hversions : IsData (.arr (record.differingVersions.map (·.value))) := by
    refine .arr ?_
    simp [isData_version]
  have hcompleted : IsData (.arr (record.completedWorkItems.map .str)) := by
    refine .arr ?_
    simp [IsData.str]
  have hcount : IsData (.num (.ofNat record.completedWorkItemCount)) :=
    .num (record.completedWorkItemCount : ℤ)
  refine .obj ?_
  simp [CampaignResumeTerminalRecord.fields, IsData.str, IsData.bool, hversions, hcompleted, hcount]

/-- What stands in the marker's file after it is written. -/
def Marked (files : CampaignFiles) (record : CampaignResumeTerminalRecord) : Prop :=
  files.terminal = some (artifactText [("resumeTerminal".toList, record.value)])

variable {files : CampaignFiles}

section

variable (h : Marked files record)
  (hvalid : validateCampaignResumeTerminalRecord rt record.value = .ok record.value)

include h hvalid

theorem readResumeTerminal_of_marked : readResumeTerminal rt files = .ok (some record.value) := by
  have hdata : IsData (.obj ([("resumeTerminal".toList, record.value)] ++
      [("status".toList, .str "READY".toList)])) := by
    refine .obj ?_
    simp [isData_value, IsData.str]
  rw [readResumeTerminal, h, Option.bind_some, artifactText, parseLaidOut_stringifyLines hdata]
  show (validateCampaignResumeTerminalRecord rt record.value).map some = _
  rw [hvalid]
  rfl

theorem resume_of_marked
    (attempt : Attempt rt) : resumeCampaign nf attempt files = (.terminal record.value, files) := by
  rw [resumeCampaign, readResumeTerminal_of_marked h hvalid]

theorem marked_happens (event : Event rt) : Marked (happens nf files event) record := by
  cases event with
  | resumed attempt =>
      rw [happens, resume_of_marked h hvalid]
      exact h
  | rewritten checkpoint => exact h

theorem marked_after (events : List (Event rt)) : Marked (after nf files events) record := by
  induction events generalizing files with
  | nil => exact h
  | cons event events ih => exact ih (marked_happens h hvalid event)

end

def sidecar (record : CampaignResumeTerminalRecord) : PlainValue :=
  plain (.obj [("resumeTerminal".toList, record.value)])

theorem writeResumeTerminal_eq_ok {raw : Option JsValue} {value : JsValue} :
    writeResumeTerminal rt nf ⟨raw, none⟩ record = .ok (value, files) ↔
      (∃ checked, validateCampaignResumeTerminalRecord rt record.value = .ok checked) ∧
        containsPrivatePayload rt nf (sidecar record) = false ∧ value = record.value ∧
          files = ⟨raw, some (artifactText [("resumeTerminal".toList, record.value)])⟩ := by
  rw [writeResumeTerminal, bind_eq_ok, writeImmutableJson]
  cases hprivate : containsPrivatePayload rt nf (sidecar record) with
  | false =>
      rw [sidecar] at hprivate
      simp only [hprivate, Bool.false_eq_true, if_false]
      constructor
      · rintro ⟨checked, hchecked, h⟩
        cases h
        exact ⟨⟨checked, hchecked⟩, trivial, rfl, rfl⟩
      · rintro ⟨⟨checked, hchecked⟩, -, rfl, rfl⟩
        exact ⟨checked, hchecked, rfl⟩
  | true =>
      rw [sidecar] at hprivate
      have hmessage : includes "PRIVATE_ARTIFACT_PRIVACY_BLOCKED".toList
          "PRIVATE_ARTIFACT_IMMUTABLE".toList = false := by
        decide
      simp only [hprivate, if_true, hmessage, Bool.false_eq_true, if_false]
      constructor
      · rintro ⟨_, _, h⟩
        contradiction
      · rintro ⟨-, h, -⟩
        contradiction

theorem writeResumeTerminal_of_valid (raw : Option JsValue)
    (hvalid : validateCampaignResumeTerminalRecord rt record.value = .ok record.value)
    (hscreened : containsPrivatePayload rt nf (sidecar record) = false) :
    writeResumeTerminal rt nf ⟨raw, none⟩ record = .ok (record.value,
      ⟨raw, some (artifactText [("resumeTerminal".toList, record.value)])⟩) :=
  writeResumeTerminal_eq_ok.mpr ⟨⟨_, hvalid⟩, hscreened, rfl, rfl⟩

end Markers

section Contracts

variable {rt : Runtime} {nf : Normalization} {attempt : Attempt rt} {raw : JsValue}

/-- What a resume owes a stored checkpoint: an accepted one shows no drift, and an unreadable one is
refused with a record that is accepted, written, and what every later resume comes to. -/
structure Settled (nf : Normalization) (attempt : Attempt rt) (raw : JsValue) : Prop where
  compatible : validateCampaignCheckpoint attempt.checks attempt.manifest raw = .ok () →
    (classifyCheckpointResumeDrift attempt.manifest rt raw).compatible = true
  terminalised : checkpointReadable attempt.manifest (recordOf raw) = false →
    ∃ explanation record files,
      explanationFor rt attempt.manifest raw attempt.current = .ok explanation ∧
      explanation.terminal = true ∧
      buildCampaignResumeTerminalRecord explanation attempt.now.text = .ok record ∧
      validateCampaignResumeTerminalRecord rt record.value = .ok record.value ∧
      resumeCampaign nf attempt ⟨some raw, none⟩ = (.terminal record.value, files) ∧
      ∀ (events : List (Event rt)) (later : Attempt rt),
        resumeCampaign nf later (after nf files events) =
          (.terminal record.value, after nf files events)

def recordFrom (attempt : Attempt rt) (raw : JsValue) (explanation : CheckpointResumeExplanation) :
    CampaignResumeTerminalRecord :=
  ⟨resumeTerminalVersion,
    (textOf (ofRecord (recordOf raw) "campaignId")).getD attempt.manifest.campaignId,
    explanation.restartReason, explanation.differingVersions, explanation.completedWorkItems,
    explanation.completedWorkItemCount, false, attempt.now.text⟩

/-- A document whose campaign can be made terminal: its two bound fields have texts, its identity is
not empty, no completed item is listed twice, and nothing in it is private. -/
structure Recordable (nf : Normalization) (attempt : Attempt rt) (raw : JsValue) : Prop where
  identityText : convertible (ofRecord (recordOf raw) "campaignId") = true
  fingerprintText : convertible (ofRecord (recordOf raw) "manifestFingerprint") = true
  identity : ofRecord (recordOf raw) "campaignId" ≠ .str []
  distinct : (stringArrayOf (ofRecord (recordOf raw) "completedWorkItemIds")).Nodup
  screened : ∀ explanation, explanationFor rt attempt.manifest raw attempt.current =
    .ok explanation → containsPrivatePayload rt nf (sidecar (recordFrom attempt raw explanation)) =
      false

theorem build_of_explained {explanation : CheckpointResumeExplanation}
    {record : CampaignResumeTerminalRecord}
    (h : explanationFor rt attempt.manifest raw attempt.current = .ok explanation) :
    buildCampaignResumeTerminalRecord explanation attempt.now.text = .ok record ↔
      ofRecord (recordOf raw) "campaignId" ≠ .str [] ∧
        record = recordFrom attempt raw explanation := by
  rw [build_eq_ok, (explains_of_ok h).identity, ne_eq _ (JsValue.str []),
    ← identity_eq_nil_iff attempt.manifest]
  constructor
  · rintro ⟨campaignId, hne, heq, rfl⟩
    obtain rfl := Option.some.inj heq
    exact ⟨hne, rfl⟩
  · rintro ⟨hne, rfl⟩
    exact ⟨_, hne, rfl, rfl⟩

theorem validate_recordFrom {explanation : CheckpointResumeExplanation}
    (h : explanationFor rt attempt.manifest raw attempt.current = .ok explanation) :
    validateCampaignResumeTerminalRecord rt (recordFrom attempt raw explanation).value =
        .ok (recordFrom attempt raw explanation).value ↔
      (stringArrayOf (ofRecord (recordOf raw) "completedWorkItemIds")).Nodup := by
  have hexplains := explains_of_ok h
  refine (validate_built_iff hexplains.count rfl rfl attempt.now.parses).trans ?_
  show explanation.completedWorkItems.Nodup ↔ _
  rw [hexplains.completed]
  exact (List.mergeSort_perm _ _).nodup_iff

theorem resume_refused (hunreadable : checkpointReadable attempt.manifest (recordOf raw) = false) :
    resumeCampaign nf attempt ⟨some raw, none⟩ = refuseResume nf attempt ⟨some raw, none⟩ raw := by
  obtain ⟨message, hrefused⟩ := refused_of_unreadable attempt.checks hunreadable
  have hread : readCheckpoint attempt ⟨some raw, none⟩ = .error message := by
    rw [readCheckpoint]
    dsimp only
    rw [hrefused]
    rfl
  have hnone : readResumeTerminal rt ⟨some raw, none⟩ = .ok none := rfl
  rw [resumeCampaign, hnone]
  dsimp only
  rw [hread]

theorem settled_iff_recordable : Settled nf attempt raw ↔
    checkpointReadable attempt.manifest (recordOf raw) = true ∨ Recordable nf attempt raw := by
  constructor
  · intro h
    cases hreadable : checkpointReadable attempt.manifest (recordOf raw) with
    | true => exact .inl rfl
    | false =>
        obtain ⟨explanation, record, files, hexplained, hterminal, hbuilt, hvalid, hresume, -⟩ :=
          h.terminalised hreadable
        obtain ⟨hidentity, rfl⟩ := (build_of_explained hexplained).mp hbuilt
        obtain ⟨hid, hfingerprint⟩ := (explanationFor_isOk _ _ _ _).mp ⟨_, hexplained⟩
        refine .inr ⟨hid, hfingerprint, hidentity, (validate_recordFrom hexplained).mp hvalid, ?_⟩
        intro other hother
        rw [Except.ok.inj (hother.symm.trans hexplained)]
        rw [resume_refused hreadable, refuseResume, hexplained] at hresume
        dsimp only at hresume
        rw [if_pos hterminal, hbuilt, ok_bind] at hresume
        cases hwritten : writeResumeTerminal rt nf ⟨some raw, none⟩
          (recordFrom attempt raw explanation) with
        | ok written => exact (writeResumeTerminal_eq_ok.mp hwritten).2.1
        | error message =>
            rw [hwritten] at hresume
            cases hresume
  · intro h
    refine ⟨compatible_of_accepted, fun hunreadable => ?_⟩
    rw [hunreadable] at h
    have h := h.resolve_left Bool.false_ne_true
    obtain ⟨explanation, hexplained⟩ := (explanationFor_isOk rt attempt.manifest raw
      attempt.current).mpr ⟨h.identityText, h.fingerprintText⟩
    have hterminal : explanation.terminal = true := by
      rw [(explains_of_ok hexplained).terminal, hunreadable, Bool.not_false]
    have hbuilt := (build_of_explained hexplained).mpr ⟨h.identity, rfl⟩
    have hvalid := (validate_recordFrom hexplained).mpr h.distinct
    have hwritten := writeResumeTerminal_of_valid (some raw) hvalid (h.screened _ hexplained)
    have hresumed : resumeCampaign nf attempt ⟨some raw, none⟩ =
        (.terminal (recordFrom attempt raw explanation).value, ⟨some raw, some (artifactText
          [("resumeTerminal".toList, (recordFrom attempt raw explanation).value)])⟩) := by
      rw [resume_refused hunreadable, refuseResume, hexplained]
      dsimp only
      rw [if_pos hterminal, hbuilt, ok_bind, hwritten]
    have hmarked : Marked ⟨some raw, some (artifactText [("resumeTerminal".toList,
        (recordFrom attempt raw explanation).value)])⟩ (recordFrom attempt raw explanation) := rfl
    exact ⟨explanation, _, _, hexplained, hterminal, hbuilt, hvalid, hresumed,
      fun events later => resume_of_marked (marked_after hmarked hvalid events) hvalid later⟩

/-- A stored checkpoint and a resume of its campaign come out as wanted exactly where the document
is current and bound, or its campaign can be made terminal. -/
theorem resume_settled_iff (rt : Runtime) (nf : Normalization) (attempt : Attempt rt)
    (raw : JsValue) : Settled nf attempt raw ↔
      checkpointReadable attempt.manifest (recordOf raw) = true ∨ Recordable nf attempt raw :=
  settled_iff_recordable

end Contracts

def sampleManifest : CampaignManifest where
  campaignId := "campaign:sha256:0123456789abcdef01234567".toList
  manifestFingerprint := "sha256:f".toList
  versions := []
  named := by decide

def sampleAttempt : Attempt plainRuntime where
  manifest := sampleManifest
  checks := ⟨.ok (), fun _ => .ok (), fun _ => true, fun _ => .ok ()⟩
  current := none
  now := ⟨"2026-01-02T03:04:05.678Z".toList, by decide⟩

def repeatedItem : JsValue :=
  .obj [("schemaVersion".toList, .str "nightwatch.campaign-checkpoint.private.v0".toList),
    ("campaignId".toList, .str sampleManifest.campaignId),
    ("manifestFingerprint".toList, .str sampleManifest.manifestFingerprint),
    ("completedWorkItemIds".toList, .arr [.str "work:1".toList, .str "work:1".toList])]

def sampleNormalization : Normalization := Policy.EmbeddedScreening.plainNormalization

theorem repeatedItem_unsettled : ¬ Settled sampleNormalization sampleAttempt repeatedItem := by
  rw [settled_iff_recordable]
  rintro (hreadable | h)
  · exact absurd hreadable (by decide)
  · exact absurd h.distinct (by decide)

end NightWatch.Campaign.ResumeTerminal
