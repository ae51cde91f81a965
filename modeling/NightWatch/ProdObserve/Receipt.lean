import NightWatch.ProdObserve.RunGate

namespace NightWatch.ProdObserve.Receipt

open Lib.JsText Lib.JsData Lib.Guard Lib.JsRuntime ProdObserve.Types
open ProdObserve.Authorization (isLowerHex)

def pqReceiptSchema : JsString := "nightwatch.production-qualification-receipt.v1".toList

/-- `DIGEST_RE`. -/
def isDigestText (s : JsString) : Bool :=
  match splitFirst ':' s with
  | none => false
  | some (name, hex) =>
      (match name with
        | [] => false
        | c :: rest => c.isLower && rest.all fun d => d.isLower || d.isDigit || d == '-') &&
        decide (24 ≤ hex.length ∧ hex.length ≤ 64) && hex.all isLowerHex

/-- `SHA_RE`. -/
def isCheckpoint (s : JsString) : Bool := decide (s.length = 40) && s.all isLowerHex

structure PqReceiptDraft where
  schemaVersion : JsString
  campaignId : JsString
  taskId : JsString
  authorizationClass : JsString
  authorizationLifecycle : JsString
  observationStage : JsString
  environmentClass : JsString
  sourceRepository : JsString
  sourceCheckpoint : JsString
  sourceInventoryState : JsString
  sourceCurrencyState : JsString
  chainVersion : JsString
  gateDefinitionDigest : JsString
  orderedGates : List ProductionAdmissionGate
  gateOutcomes : List GateOutcome
  routeEvidenceIdentity : JsString
  readOnlyProofIdentity : JsString
  parameterProvenanceIdentity : JsString
  privacyPolicyIdentity : JsString
  containmentIdentity : JsString
  observerIdentityClass : JsString
  organizationWindowIdentity : JsString
  budgetIdentity : JsString
  breakerState : JsString
  killSwitchState : JsString
  requestsDispatched : JsNumber
  deniedBeforeDispatch : JsNumber
  persistenceAuditResult : JsString
  finalResult : JsString

def outcomeValue (outcome : GateOutcome) : JsValue :=
  .obj [("gate".toList, .str outcome.gate.text), ("result".toList, .str outcome.result.text),
    ("denialCode".toList, match outcome.denialCode with
      | none => .null
      | some code => .str code.text)]

def PqReceiptDraft.fields (draft : PqReceiptDraft) : List (JsString × JsValue) :=
  [("schemaVersion".toList, .str draft.schemaVersion),
    ("campaignId".toList, .str draft.campaignId),
    ("taskId".toList, .str draft.taskId),
    ("authorizationClass".toList, .str draft.authorizationClass),
    ("authorizationLifecycle".toList, .str draft.authorizationLifecycle),
    ("observationStage".toList, .str draft.observationStage),
    ("environmentClass".toList, .str draft.environmentClass),
    ("sourceRepository".toList, .str draft.sourceRepository),
    ("sourceCheckpoint".toList, .str draft.sourceCheckpoint),
    ("sourceInventoryState".toList, .str draft.sourceInventoryState),
    ("sourceCurrencyState".toList, .str draft.sourceCurrencyState),
    ("chainVersion".toList, .str draft.chainVersion),
    ("gateDefinitionDigest".toList, .str draft.gateDefinitionDigest),
    ("orderedGates".toList, .arr (draft.orderedGates.map fun gate => .str gate.text)),
    ("gateOutcomes".toList, .arr (draft.gateOutcomes.map outcomeValue)),
    ("routeEvidenceIdentity".toList, .str draft.routeEvidenceIdentity),
    ("readOnlyProofIdentity".toList, .str draft.readOnlyProofIdentity),
    ("parameterProvenanceIdentity".toList, .str draft.parameterProvenanceIdentity),
    ("privacyPolicyIdentity".toList, .str draft.privacyPolicyIdentity),
    ("containmentIdentity".toList, .str draft.containmentIdentity),
    ("observerIdentityClass".toList, .str draft.observerIdentityClass),
    ("organizationWindowIdentity".toList, .str draft.organizationWindowIdentity),
    ("budgetIdentity".toList, .str draft.budgetIdentity),
    ("breakerState".toList, .str draft.breakerState),
    ("killSwitchState".toList, .str draft.killSwitchState),
    ("requestsDispatched".toList, .num draft.requestsDispatched),
    ("deniedBeforeDispatch".toList, .num draft.deniedBeforeDispatch),
    ("persistenceAuditResult".toList, .str draft.persistenceAuditResult),
    ("finalResult".toList, .str draft.finalResult)]

variable (rt : Runtime) (digest : JsString → JsString)

mutual

/-- `canonical`, as it reads inside a template. -/
def canonical : JsValue → JsString
  | .undefined => "undefined".toList
  | .arr items => '[' :: join ',' (canonicalItems items) ++ [']']
  | .obj fields =>
      let entries := (canonicalFields fields).insertionSort fun a b => textLe a.1 b.1
      '{' :: join ',' (entries.map fun entry =>
        rt.jsonStringify (.str entry.1) ++ ':' :: entry.2) ++ ['}']
  | .null => rt.jsonStringify .null
  | .bool b => rt.jsonStringify (.bool b)
  | .num n => rt.jsonStringify (.num n)
  | .str s => rt.jsonStringify (.str s)

/-- `join` leaves an undefined item blank. -/
def canonicalItems : List JsValue → List JsString
  | [] => []
  | item :: rest => (if item.isUndefined then [] else canonical item) :: canonicalItems rest

def canonicalFields : List (JsString × JsValue) → List (JsString × JsString)
  | [] => []
  | (key, value) :: rest => (key, canonical value) :: canonicalFields rest

end

def receiptDigest (fields : List (JsString × JsValue)) : JsString :=
  "pqreceipt:".toList ++ digest (canonical rt (.obj fields))

def sealPqReceipt (draft : PqReceiptDraft) : JsValue :=
  .obj (draft.fields ++ [("receiptDigest".toList, .str (receiptDigest rt digest draft.fields))])

inductive PqReceiptRejection where
  | schemaUnsupported
  | chainVersionUnsupported
  | gateListMismatch
  | gateOutcomeMismatch
  | gateDuplicated
  | gateUnknown
  | gateResultInvalid
  | denialCodeUnknown
  | forgedAllow
  | identityMalformed
  | checkpointMalformed
  | aggregateInconsistent
  | digestMismatch
  deriving DecidableEq

/-- `value === text`. -/
def isText (value : JsValue) (text : JsString) : Bool :=
  match value with
  | .str s => s = text
  | _ => false

def sameElement : JsValue → JsValue → Bool
  | .undefined, .undefined | .null, .null => true
  | .bool a, .bool b => a = b
  | .num a, .num b => a = b
  | .str a, .str b => a = b
  | _, _ => false

/-- `new Set(items).size !== items.length`. -/
def hasDuplicate : List JsValue → Bool
  | [] => false
  | item :: rest => rest.any (sameElement item) || hasDuplicate rest

/-- `entry[key]`; an array has none of the keys that are read. -/
def entryField (entry : JsValue) (key : JsString) : JsValue :=
  match entry with
  | .obj fields => JsValue.field fields key
  | _ => .undefined

def isNull : JsValue → Bool
  | .null => true
  | _ => false

def isObject : JsValue → Bool
  | .obj _ | .arr _ => true
  | _ => false

def refuseIf (condition : Bool) (rejection : PqReceiptRejection) : Except PqReceiptRejection Unit :=
  if condition then .error rejection else .ok ()

def checkGateKnown (gate : JsValue) : Except PqReceiptRejection Unit :=
  refuseIf (!productionAdmissionGates.any fun known => isText gate known.text) .gateUnknown

def checkOrderedGates (ordered : JsValue) : Except PqReceiptRejection Unit :=
  match ordered with
  | .arr items => do
      refuseIf (hasDuplicate items) .gateDuplicated
      forEach checkGateKnown items
      refuseIf (items.length != productionAdmissionGates.length ||
        (items.zip productionAdmissionGates).any fun pair => !isText pair.1 pair.2.text)
        .gateListMismatch
  | _ => .error .gateListMismatch

def gateResultTexts : List JsString := ["PASS".toList, "DENY".toList, "NOT_EVALUATED".toList]

def finalResultTexts : List JsString := ["QUALIFIED".toList, "DENIED".toList]

def checkOutcome (pair : JsValue × ProductionAdmissionGate) : Except PqReceiptRejection Unit := do
  let (entry, gate) := pair
  refuseIf (!isObject entry) .gateOutcomeMismatch
  refuseIf (!isText (entryField entry "gate".toList) gate.text) .gateOutcomeMismatch
  let result := entryField entry "result".toList
  refuseIf (stringOf rt result ∉ gateResultTexts) .gateResultInvalid
  let code := entryField entry "denialCode".toList
  refuseIf (!isNull code && !productionDenialCodes.any fun known => isText code known.text)
    .denialCodeUnknown
  refuseIf (isText result "DENY".toList && isNull code) .denialCodeUnknown
  refuseIf (!isText result "DENY".toList && !isNull code) .gateResultInvalid

def checkOutcomes (outcomes : JsValue) : Except PqReceiptRejection (List JsValue) :=
  match outcomes with
  | .arr items => do
      refuseIf (items.length != productionAdmissionGates.length) .gateOutcomeMismatch
      forEach (checkOutcome rt) (items.zip productionAdmissionGates)
      .ok items
  | _ => .error .gateOutcomeMismatch

def identityKeys : List JsString :=
  ["gateDefinitionDigest".toList, "routeEvidenceIdentity".toList,
    "readOnlyProofIdentity".toList, "parameterProvenanceIdentity".toList,
    "privacyPolicyIdentity".toList, "organizationWindowIdentity".toList, "budgetIdentity".toList]

def checkIdentity (fields : List (JsString × JsValue)) (key : JsString) :
    Except PqReceiptRejection Unit :=
  match JsValue.field fields key with
  | .str s => refuseIf (!isDigestText s) .identityMalformed
  | _ => .error .identityMalformed

def count (value : JsValue) : Option JsNumber :=
  match value with
  | .num n => if n.isInteger && !n.lt (.ofNat 0) then some n else none
  | _ => none

def checkAggregates (fields : List (JsString × JsValue)) : Except PqReceiptRejection Unit :=
  match count (JsValue.field fields "requestsDispatched".toList),
      count (JsValue.field fields "deniedBeforeDispatch".toList) with
  | some dispatched, some _ =>
      refuseIf (isText (JsValue.field fields "finalResult".toList) "DENIED".toList &&
        (JsNumber.ofNat 0).lt dispatched) .aggregateInconsistent
  | _, _ => .error .aggregateInconsistent

def validatePqReceipt (candidate : JsValue) : Except PqReceiptRejection Unit :=
  match candidate with
  | .obj fields => do
      let receipt := JsValue.field fields
      refuseIf (!isText (receipt "schemaVersion".toList) pqReceiptSchema) .schemaUnsupported
      refuseIf (!isText (receipt "chainVersion".toList) productionAdmissionChainVersion)
        .chainVersionUnsupported
      checkOrderedGates (receipt "orderedGates".toList)
      let outcomes ← checkOutcomes rt (receipt "gateOutcomes".toList)
      let everyGatePassed :=
        outcomes.all fun entry => isText (entryField entry "result".toList) "PASS".toList
      let finalResult := receipt "finalResult".toList
      refuseIf (isText finalResult "QUALIFIED".toList && !everyGatePassed) .forgedAllow
      refuseIf (isText finalResult "DENIED".toList && everyGatePassed) .forgedAllow
      refuseIf (stringOf rt finalResult ∉ finalResultTexts) .forgedAllow
      forEach (checkIdentity fields) identityKeys
      match receipt "sourceCheckpoint".toList with
      | .str checkpoint => refuseIf (!isCheckpoint checkpoint) .checkpointMalformed
      | _ => .error .checkpointMalformed
      checkAggregates fields
      let draft := fields.filter (·.1 ≠ "receiptDigest".toList)
      refuseIf (!isText (receipt "receiptDigest".toList) (receiptDigest rt digest draft))
        .digestMismatch
  | _ => .error .schemaUnsupported

end NightWatch.ProdObserve.Receipt
