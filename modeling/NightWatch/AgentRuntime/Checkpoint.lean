import NightWatch.Lib.Guard
import NightWatch.Lib.JsRuntime
import NightWatch.Lib.NumberText
import NightWatch.AgentRuntime.State

namespace NightWatch.AgentRuntime.Checkpoint

open Lib.JsText Lib.JsData Lib.JsDocuments Lib.JsRuntime Lib.NumberText Lib.Guard
  AgentProtocol.Vocabulary AgentProtocol.Budget AgentProtocol.Validate AgentRuntime.ToolResults
  AgentRuntime.State

inductive AgentCheckpointFailureCode where
  | corrupt
  | secretDetected
  | campaignMismatch
  | versionUnsupported
  deriving DecidableEq

structure AgentCheckpointError where
  code : AgentCheckpointFailureCode
  detail : JsString
  deriving DecidableEq

abbrev Parsed (α : Type) : Type := Except AgentCheckpointError α

def refuse {α : Type} (detail : String) : Parsed α := .error ⟨.corrupt, detail.toList⟩

def require (holds : Bool) (detail : String) : Parsed Unit :=
  if holds then .ok () else refuse detail

theorem require_eq_ok {holds : Bool} {detail : String} {u : Unit} :
    require holds detail = .ok u ↔ holds = true := by
  rw [require]
  split
  · simp_all
  · simp_all [refuse]

/-- `/^[A-Za-z0-9_.:-]{1,80}$/`, else a word that gives nothing of the value away. -/
def boundedFoundVersion (version : JsString) : JsString :=
  if upTo 80 (fun c => isWordDash c || c == '.' || c == ':') version then version
  else "UNRECOGNISED".toList

def unsupportedVersion {α : Type} (place : JsString) (value : JsValue) : Parsed α :=
  match value with
  | .str version =>
      if !version.isEmpty && utf16Length version ≤ 200 then
        .error ⟨.versionUnsupported, place ++ " has an unsupported schema version: ".toList ++
          boundedFoundVersion version⟩
      else .error ⟨.corrupt, place ++ " has an invalid schema version".toList⟩
  | _ => .error ⟨.corrupt, place ++ " has an invalid schema version".toList⟩

def isText (value : JsValue) (text : JsString) : Bool :=
  match value with
  | .str s => s == text
  | _ => false

def requireVersion (place : JsString) (value : JsValue) (version : JsString) : Parsed Unit :=
  if isText value version then .ok () else unsupportedVersion place value

def turnMarker : JsString := ":turn:".toList

/-- `<campaignId>:turn:<completedTurns>`. -/
def resumeCursorFor (campaignId : JsString) (completedTurns : Nat) : JsString :=
  campaignId ++ turnMarker ++ decimal completedTurns

def splitMarker : JsString → Option (JsString × JsString)
  | [] => none
  | c :: rest =>
      match splitMarker rest with
      | some (before, after) => some (c :: before, after)
      | none =>
          if startsWith (c :: rest) turnMarker then some ([], (c :: rest).drop turnMarker.length)
          else none

/-- The whole number, not a negative one, that `Number(s)` is. -/
def turnCount (s : JsString) : Option Nat :=
  match numberOf s with
  | .finite q => if q.den = 1 ∧ 0 ≤ q then some q.num.toNat else none
  | _ => none

def parseResumeCursor (cursor : JsValue) (campaignId : JsString) : Parsed Nat :=
  match cursor with
  | .str cursor =>
      if cursor.isEmpty || 512 < utf16Length cursor then
        refuse "resumeCursor must be a non-empty string"
      else
        match splitMarker cursor with
        | none => refuse "resumeCursor has no turn marker"
        | some (owner, turns) =>
            if owner.isEmpty then refuse "resumeCursor has no turn marker"
            else if owner ≠ campaignId then
              .error ⟨.campaignMismatch, "checkpoint belongs to another campaign".toList⟩
            else
              match turnCount turns with
              | some turns =>
                  if turns ≤ 1000000 then .ok turns
                  else refuse "resumeCursor turn counter is not a valid integer"
              | none => refuse "resumeCursor turn counter is not a valid integer"
  | _ => refuse "resumeCursor must be a non-empty string"

/-- What names of credentials contain; `api[_-]?key` is spelled out. -/
def credentialWords : List JsString :=
  ["credential".toList, "cookie".toList, "token".toList, "secret".toList, "password".toList,
    "apikey".toList, "api_key".toList, "api-key".toList, "auth".toList]

def credentialKeyAt (s : JsString) : Bool :=
  let name := s.tail.takeWhile fun c => c ≠ '"' && c ≠ '\\'
  let after := s.tail.drop name.length
  s.head? == some '"' && credentialWords.any (includes (name.map Char.toLower)) &&
    after.head? == some '"' && (after.tail.dropWhile isSpace).head? == some ':'

/-- `/customer[_-]?secret/i` at the start of a text. -/
def customerSecretAt (s : JsString) : Bool :=
  let folded := (s.take 15).map Char.toLower
  startsWith folded "customersecret".toList || startsWith folded "customer_secret".toList ||
    startsWith folded "customer-secret".toList

def assertCheckpointHasNoSecrets (serialized : JsString) : Parsed Unit :=
  if hasSecret serialized then
    .error ⟨.secretDetected, "checkpoint contains token or key material".toList⟩
  else if serialized.tails.any credentialKeyAt then
    .error ⟨.secretDetected, "checkpoint contains credential-shaped keys".toList⟩
  else if serialized.tails.any customerSecretAt then
    .error ⟨.secretDetected, "checkpoint contains customer-secret material".toList⟩
  else .ok ()

section Creating

variable (rt : Runtime)

/-- `ledgerOf(state)`: a ledger that is not one of safe counts is carried as a legacy. -/
def ledgerOf (state : AgentRuntimeState) : AgentByteLedger :=
  if state.byteLedger.isSafe then state.byteLedger
  else legacyAgentByteLedger state.usage.inputBytes state.usage.outputBytes
    state.usage.toolPayloadBytes

def withCheckpointBytes (state : AgentRuntimeState) (ledger : AgentByteLedger)
    (checkpointBytes : Nat) : AgentRuntimeState :=
  { state with byteLedger := { ledger with checkpointBytes } }

def candidate (state : AgentRuntimeState) (resumeCursor : JsString) (bytes : Nat) :
    AgentCheckpoint :=
  ⟨state.campaignId, withCheckpointBytes state (ledgerOf state) bytes, resumeCursor⟩

def measured (state : AgentRuntimeState) (resumeCursor : JsString) (bytes : Nat) : Nat :=
  (ledgerOf state).checkpointBytes +
    byteLength (rt.jsonStringify (checkpointDocument (candidate state resumeCursor bytes)))

def checkpointBytesFixedPointIterations : Nat := 24

def fixedPoint (state : AgentRuntimeState) (resumeCursor : JsString) : Nat → Nat → Option Nat
  | 0, _ => none
  | fuel + 1, bytes =>
      if measured rt state resumeCursor bytes = bytes then some bytes
      else fixedPoint state resumeCursor fuel (measured rt state resumeCursor bytes)

def finalizeCheckpoint (state : AgentRuntimeState) (resumeCursor : JsString) :
    Parsed AgentCheckpoint :=
  match fixedPoint rt state resumeCursor checkpointBytesFixedPointIterations
      (ledgerOf state).checkpointBytes with
  | none => refuse "checkpoint byte measurement did not converge"
  | some bytes => do
      assertCheckpointHasNoSecrets
        (rt.jsonStringify (checkpointDocument (candidate state resumeCursor bytes)))
      .ok (candidate state resumeCursor bytes)

def createCheckpoint (state : AgentRuntimeState) (completedTurns : Nat) : Parsed AgentCheckpoint :=
  finalizeCheckpoint rt state (resumeCursorFor state.campaignId completedTurns)

end Creating

theorem state_of_createCheckpoint {rt : Runtime} {state : AgentRuntimeState} {completedTurns : Nat}
    {checkpoint : AgentCheckpoint} (h : createCheckpoint rt state completedTurns = .ok checkpoint) :
    ∃ bytes, checkpoint.state = withCheckpointBytes state (ledgerOf state) bytes := by
  rw [createCheckpoint, finalizeCheckpoint] at h
  split at h
  · contradiction
  · obtain ⟨-, -, hcandidate⟩ := bind_eq_ok.mp h
    obtain rfl := Except.ok.inj hcandidate
    exact ⟨_, rfl⟩

def isFiniteNumber : JsValue → Bool
  | .num (.finite q) => decide (0 ≤ q)
  | _ => false

def isStringArray : JsValue → Bool
  | .arr items => (JsValue.strings items).isSome
  | _ => false

def isString : JsValue → Bool
  | .str _ => true
  | _ => false

def isNonEmptyString : JsValue → Bool
  | .str s => !s.isEmpty
  | _ => false

def isNullableString : JsValue → Bool
  | .str _ | .null => true
  | _ => false

def isArray : JsValue → Bool
  | .arr _ => true
  | _ => false

def isMember {α : Type} (members : List α) (name : α → JsString) (v : JsValue) : Bool :=
  (readMember members name v).isSome

def itemsOf : JsValue → List JsValue
  | .arr items => items
  | _ => []

def checkHypothesis : JsValue → Parsed Unit
  | .obj fields =>
      require (isString (JsValue.field fields "hypothesisId".toList) &&
        isString (JsValue.field fields "statement".toList) &&
        isArray (JsValue.field fields "evidenceRefs".toList)) "state.hypotheses entry is invalid"
  | _ => refuse "state.hypotheses entry is invalid"

def checkRecord : JsValue → Parsed Unit
  | .obj fields => do
      require (isString (JsValue.field fields "turnId".toList) &&
        isMember agentPhases AgentPhase.text (JsValue.field fields "phase".toList) &&
        isString (JsValue.field fields "intentKind".toList) &&
        isNullableString (JsValue.field fields "toolId".toList) &&
        isNullableString (JsValue.field fields "argumentDigest".toList) &&
        isString (JsValue.field fields "resultClass".toList) &&
        isStringArray (JsValue.field fields "evidenceRefs".toList))
        "state.actionLog entry is invalid"
      require ((JsValue.field fields "target".toList).isNullish ||
        isString (JsValue.field fields "target".toList))
        "state.actionLog entry target is invalid"
      require ((JsValue.field fields "salient".toList).isUndefined ||
        isStringArray (JsValue.field fields "salient".toList))
        "state.actionLog entry salient is invalid"
      require ((JsValue.field fields "disposition".toList).isNullish ||
        isMember actionFailureDispositions ActionFailureDisposition.text
          (JsValue.field fields "disposition".toList))
        "state.actionLog entry disposition is invalid"
  | _ => refuse "state.actionLog entry is invalid"

def checkSurface (surface : JsValue) : Parsed Unit :=
  match surface with
  | .undefined => .ok ()
  | .arr items =>
      require (((normalizeSurfaceEntries (.arr items)).getD []).length == items.length)
        "state.reproductionSurface entry is invalid"
  | _ => refuse "state.reproductionSurface is invalid"

def tierCeilings : List (JsString × Nat × Nat) :=
  [("HOUR_1".toList, 160000, 64000000), ("HOUR_4".toList, 640000, 256000000),
    ("HOUR_8".toList, 1280000, 512000000), ("OVERNIGHT".toList, 1920000, 768000000)]

def v1PolicyKeys : List String :=
  ["wallTimeMs", "reasonerCalls", "inputBytes", "outputBytes", "toolActions", "perActionTimeoutMs",
    "candidateCap", "retries", "consecutiveFailures", "providerFailures"]

def v1UsageKeys : List String :=
  ["wallTimeMs", "reasonerCalls", "inputBytes", "outputBytes", "toolActions", "candidateCount",
    "retries", "consecutiveFailures", "providerFailures"]

def policyKeys : List String :=
  ["wallTimeMs", "reasonerCalls", "inputBytes", "outputBytes", "toolPayloadBytes", "toolActions",
    "perActionTimeoutMs", "candidateCap", "failures", "consecutiveFailures", "providerFailures"]

def usageKeys : List String :=
  ["wallTimeMs", "reasonerCalls", "inputBytes", "outputBytes", "toolPayloadBytes", "toolActions",
    "candidateCount", "failures", "consecutiveFailures", "providerFailures"]

/-- The dimension was named `retries` before; the old key never survives. -/
def normalizeBudgetFailureField (record : Fields) : Fields :=
  match record.lookup "retries".toList with
  | none => record
  | some legacy =>
      let rest := record.filter fun field => field.1 ≠ "retries".toList
      if isFiniteNumber (JsValue.field rest "failures".toList) then rest
      else if isFiniteNumber legacy then mapSet "failures".toList legacy rest
      else rest

def orElse (v other : JsValue) : JsValue := if v.isNullish then other else v

def v1Value (record : Fields) (key : String) : JsValue :=
  if key = "retries" then
    orElse (JsValue.field record "retries".toList) (JsValue.field record "failures".toList)
  else JsValue.field record key.toList

def checkNumbers (place part : String) (value : String → JsValue) (keys : List String) :
    Parsed Unit :=
  forEach (fun key => require (isFiniteNumber (value key))
    (place ++ ".budget." ++ part ++ "." ++ key ++ " is invalid")) keys

def migrateBudget (place : String) (policy usage : Fields) : Parsed (Fields × Fields) := do
  checkNumbers place "policy" (v1Value policy) v1PolicyKeys
  require (isString (JsValue.field policy "ceilingName".toList))
    (place ++ ".budget.policy.ceilingName is invalid")
  match (readText (JsValue.field policy "ceilingName".toList)).bind fun name =>
      tierCeilings.lookup name with
  | none => refuse (place ++ ".budget.policy.ceilingName is not a known tier")
  | some (outputBytes, toolPayloadBytes) => do
      checkNumbers place "usage" (v1Value usage) v1UsageKeys
      let legacyPolicy := normalizeBudgetFailureField policy
      let legacyUsage := normalizeBudgetFailureField usage
      .ok (mapSet "toolPayloadBytes".toList (writeCount toolPayloadBytes)
          (mapSet "outputBytes".toList (writeCount outputBytes)
            (mapSet "schemaVersion".toList (.str agentBudgetVersion) legacyPolicy)),
        mapSet "toolPayloadBytes".toList (JsValue.field legacyUsage "outputBytes".toList)
          (mapSet "outputBytes".toList (writeCount 0) legacyUsage))

def currentBudget (place : String) (policy usage : Fields) : Parsed (Fields × Fields) := do
  let normalizedPolicy := normalizeBudgetFailureField policy
  let normalizedUsage := normalizeBudgetFailureField usage
  checkNumbers place "policy" (fun key => JsValue.field normalizedPolicy key.toList) policyKeys
  require (isString (JsValue.field normalizedPolicy "ceilingName".toList))
    (place ++ ".budget.policy.ceilingName is invalid")
  checkNumbers place "usage" (fun key => JsValue.field normalizedUsage key.toList) usageKeys
  .ok (normalizedPolicy, normalizedUsage)

def isBudgetV1 (policy : JsValue) : Bool :=
  isText (subfield policy "schemaVersion".toList) agentBudgetVersionV1

def parseBudgetSnapshot (place : String) (value : JsValue) : Parsed (Fields × Fields) :=
  match subfield value "policy".toList, subfield value "usage".toList with
  | .obj policy, .obj usage =>
      if isBudgetV1 (.obj policy) then migrateBudget place policy usage
      else do
        requireVersion (place ++ ".budget.policy").toList
          (JsValue.field policy "schemaVersion".toList) agentBudgetVersion
        currentBudget place policy usage
  | _, _ => refuse (place ++ ".budget is not a policy/usage pair")

def ledgerKeys : List String :=
  ["legacyInputBytes", "legacyOutputBytes", "legacyToolPayloadBytes", "renderedInputBytes",
    "requestMemoryBytes", "requestUntrustedBytes", "providerResponseBytes", "providerStderrBytes",
    "reasonerOutputBytes", "toolResultBytes", "toolEnvelopeBytes", "checkpointBytes"]

def isSafeCount : JsValue → Bool
  | .num (.finite q) => decide (q.den = 1 ∧ 0 ≤ q.num ∧ q.num ≤ maxSafeInteger)
  | _ => false

def hasSafeCounts (keys : List String) : JsValue → Bool
  | .obj fields =>
      isText (JsValue.field fields "schemaVersion".toList) agentByteLedgerVersion &&
        keys.all fun key => isSafeCount (JsValue.field fields key.toList)
  | _ => false

def isAgentByteLedger (v : JsValue) : Bool := hasSafeCounts ledgerKeys v

def isV1ByteLedger (v : JsValue) : Bool :=
  hasSafeCounts (ledgerKeys.filter fun key => key ≠ "legacyToolPayloadBytes") v

def countIn (ledger : JsValue) (key : String) : Nat := (readCount (subfield ledger key.toList)).getD 0

def chargedInputIn (ledger : JsValue) : Nat :=
  countIn ledger "legacyInputBytes" + countIn ledger "renderedInputBytes"

def chargedOutputIn (ledger : JsValue) : Nat :=
  countIn ledger "legacyOutputBytes" + countIn ledger "providerResponseBytes" +
    countIn ledger "providerStderrBytes"

def chargedToolPayloadIn (ledger : JsValue) : Nat :=
  countIn ledger "legacyToolPayloadBytes" + countIn ledger "toolResultBytes"

/-- `charged === usage[key]`. -/
def reconciles (charged : Nat) (usage : Fields) (key : String) : Bool :=
  match JsValue.field usage key.toList with
  | .num (.finite q) => decide (q = charged)
  | _ => false

def checkLedger (budget ledger : JsValue) : Parsed Unit :=
  if ledger.isNullish then .ok ()
  else if isBudgetV1 (subfield budget "policy".toList) then do
    require (isV1ByteLedger ledger) "state.byteLedger is invalid"
    let (_, usage) ← parseBudgetSnapshot "state" budget
    require (reconciles (chargedInputIn ledger) usage "inputBytes")
      "state.byteLedger charged input does not reconcile with budget usage"
    require (reconciles (chargedOutputIn ledger + countIn ledger "toolResultBytes") usage
        "toolPayloadBytes")
      "state.byteLedger charged output does not reconcile with budget usage"
  else do
    require (isAgentByteLedger ledger) "state.byteLedger is invalid"
    let (_, usage) ← parseBudgetSnapshot "state" budget
    require (reconciles (chargedInputIn ledger) usage "inputBytes")
      "state.byteLedger charged input does not reconcile with budget usage"
    require (reconciles (chargedOutputIn ledger) usage "outputBytes")
      "state.byteLedger charged output does not reconcile with budget usage"
    require (reconciles (chargedToolPayloadIn ledger) usage "toolPayloadBytes")
      "state.byteLedger charged tool payload does not reconcile with budget usage"

section Parsing

def legacyLedgerDocument (usage : Fields) : JsValue :=
  .obj [("schemaVersion".toList, .str agentByteLedgerVersion),
    ("legacyInputBytes".toList, JsValue.field usage "inputBytes".toList),
    ("legacyOutputBytes".toList, JsValue.field usage "outputBytes".toList),
    ("legacyToolPayloadBytes".toList, JsValue.field usage "toolPayloadBytes".toList),
    ("renderedInputBytes".toList, writeCount 0),
    ("requestMemoryBytes".toList, writeCount 0),
    ("requestUntrustedBytes".toList, writeCount 0),
    ("providerResponseBytes".toList, writeCount 0),
    ("providerStderrBytes".toList, writeCount 0),
    ("reasonerOutputBytes".toList, writeCount 0),
    ("toolResultBytes".toList, writeCount 0),
    ("toolEnvelopeBytes".toList, writeCount 0),
    ("checkpointBytes".toList, writeCount 0)]

def checkState (value : Fields) : Parsed Unit := do
  requireVersion "state".toList (JsValue.field value "schemaVersion".toList) agentRuntimeStateVersion
  require (isNonEmptyString (JsValue.field value "campaignId".toList)) "state.campaignId is invalid"
  require (isMember agentRuntimeStatuses AgentRuntimeStatus.text
    (JsValue.field value "status".toList)) "state.status is invalid"
  require (isMember agentPhases AgentPhase.text (JsValue.field value "phase".toList))
    "state.phase is invalid"
  require (isArray (JsValue.field value "hypotheses".toList)) "state.hypotheses is invalid"
  forEach checkHypothesis (itemsOf (JsValue.field value "hypotheses".toList))
  require (isArray (JsValue.field value "actionLog".toList)) "state.actionLog is invalid"
  forEach checkRecord (itemsOf (JsValue.field value "actionLog".toList))
  require ((JsValue.field value "knownTargets".toList).isUndefined ||
    isStringArray (JsValue.field value "knownTargets".toList)) "state.knownTargets is invalid"
  checkSurface (JsValue.field value "reproductionSurface".toList)

def checkLists (value : Fields) : Parsed Unit := do
  require (isStringArray (JsValue.field value "evidenceRefs".toList)) "state.evidenceRefs is invalid"
  require (isStringArray (JsValue.field value "candidateIds".toList)) "state.candidateIds is invalid"
  require (isNullableString (JsValue.field value "terminationReason".toList))
    "state.terminationReason is invalid"

def parseRuntimeState : JsValue → Parsed Fields
  | .obj value => do
      let budget := JsValue.field value "budget".toList
      checkState value
      checkLedger budget (JsValue.field value "byteLedger".toList)
      checkLists value
      let (policy, usage) ← parseBudgetSnapshot "state" budget
      let parsed := mapSet "budget".toList
        (.obj [("policy".toList, .obj policy), ("usage".toList, .obj usage)]) value
      .ok (if isBudgetV1 (subfield budget "policy".toList) then
          mapSet "byteLedger".toList (legacyLedgerDocument usage) parsed
        else parsed)
  | _ => refuse "state is not an object"

structure ParsedCheckpoint where
  campaignId : JsString
  state : Fields
  resumeCursor : JsString

def ParsedCheckpoint.document (parsed : ParsedCheckpoint) : JsValue :=
  .obj [("schemaVersion".toList, .str agentCheckpointVersion),
    ("campaignId".toList, .str parsed.campaignId), ("state".toList, .obj parsed.state),
    ("resumeCursor".toList, .str parsed.resumeCursor)]

def textOf (v : JsValue) : JsString := (readText v).getD []

variable (rt : Runtime)

def parseCheckpoint : JsValue → Parsed ParsedCheckpoint
  | .obj value => do
      requireVersion "checkpoint".toList (JsValue.field value "schemaVersion".toList)
        agentCheckpointVersion
      require (isNonEmptyString (JsValue.field value "campaignId".toList))
        "checkpoint campaignId is invalid"
      require (isNonEmptyString (JsValue.field value "resumeCursor".toList))
        "checkpoint resumeCursor is invalid"
      let state ← parseRuntimeState (JsValue.field value "state".toList)
      let parsed : ParsedCheckpoint :=
        ⟨textOf (JsValue.field value "campaignId".toList), state,
          textOf (JsValue.field value "resumeCursor".toList)⟩
      if textOf (JsValue.field state "campaignId".toList) ≠ parsed.campaignId then
        .error ⟨.campaignMismatch, "checkpoint state belongs to another campaign".toList⟩
      else do
        require (includes parsed.resumeCursor turnMarker) "checkpoint resumeCursor is malformed"
        assertCheckpointHasNoSecrets (rt.jsonStringify parsed.document)
        .ok parsed
  | _ => refuse "checkpoint is not an object"

end Parsing

end NightWatch.AgentRuntime.Checkpoint
