import NightWatch.AgentProtocol.Vocabulary

/-!
The fail-closed validator of reasoner responses. Only intents of the closed vocabulary,
well formed and within the authorized tools, come out of it.
-/

namespace NightWatch.AgentProtocol.Validate

open Lib.JsText Lib.JsData AgentProtocol.Vocabulary

def isAlnum (c : Char) : Bool := c.isAlphanum

/-- `[A-Za-z0-9_-]`. -/
def isWordDash (c : Char) : Bool := isAlnum c || c == '_' || c == '-'

/-- `/^[A-Za-z0-9._:-]{1,128}$/`. -/
def isSafeId (s : JsString) : Bool := upTo 128 (fun c => isWordDash c || c == '.' || c == ':') s

/-- `/^[A-Z][A-Z0-9_]{0,127}$/`. -/
def isSafeCode (s : JsString) : Bool :=
  s.head?.any Char.isUpper && s.length ≤ 128 &&
    s.tail.all fun c => c.isUpper || c.isDigit || c == '_'

/-- `/Bearer\s+[A-Za-z0-9._~+\/=-]{8,}/` at the start of a text. -/
def bearerAt (s : JsString) : Bool :=
  let rest := s.drop 6
  startsWith s "Bearer".toList && rest.head?.any isSpace &&
    8 ≤ ((rest.dropWhile isSpace).takeWhile fun c =>
      isWordDash c || c == '.' || c == '~' || c == '+' || c == '/' || c == '=').length

/-- `/eyJ[A-Za-z0-9_-]{8,}\.[A-Za-z0-9_-]{8,}/` at the start of a text. -/
def tokenAt (s : JsString) : Bool :=
  let rest := s.drop 3
  let after := rest.dropWhile isWordDash
  startsWith s "eyJ".toList && 8 ≤ (rest.takeWhile isWordDash).length && after.head? == some '.' &&
    8 ≤ (after.tail.takeWhile isWordDash).length

/-- `/AKIA[0-9A-Z]{16}/` at the start of a text. -/
def accessKeyAt (s : JsString) : Bool :=
  startsWith s "AKIA".toList &&
    16 ≤ ((s.drop 4).takeWhile fun c => c.isUpper || c.isDigit).length

/-- `/-----BEGIN [A-Z ]*PRIVATE KEY-----/` at the start of a text. -/
def privateKeyAt (s : JsString) : Bool :=
  let rest := s.drop 11
  let label := rest.takeWhile fun c => c.isUpper || c == ' '
  startsWith s "-----BEGIN ".toList && endsWith label "PRIVATE KEY".toList &&
    startsWith (rest.drop label.length) "-----".toList

/-- `SECRET_RE.test(s)`. -/
def hasSecret (s : JsString) : Bool :=
  s.tails.any fun t => bearerAt t || tokenAt t || accessKeyAt t || privateKeyAt t

inductive AgentIntent where
  | callTool (toolId argumentDigest : JsString) (arguments : List (JsString × JsValue))
  | formHypothesis (hypothesisId statement : JsString) (evidenceRefs : List JsString)
  | proposeCandidate (candidateId : JsString) (evidenceRefs : List JsString)
  | rejectCandidate (candidateId reasonCode : JsString)
  | replan (reasonCode : JsString)
  | pause
  | cancel
  | terminate (reason : AgentTerminationReason)

structure ReasonerHypothesisDraft where
  hypothesisId : JsString
  statement : JsString
  evidenceRefs : List JsString

structure ReasonerTurnResponse where
  intents : List AgentIntent
  hypotheses : List ReasonerHypothesisDraft

/-- `argumentDigest` stands for `prefixedDigest24('arg', arguments)`. -/
structure ReasonerValidationContext where
  authorizedEnvironments : List AgentToolEnvironment
  allowedToolIds : List AgentToolId
  argumentDigest : List (JsString × JsValue) → JsString

def unsafeIntentKinds : List JsString :=
  ["SHELL".toList, "GIT_MUTATION".toList, "RAW_PLAYWRIGHT".toList, "RAW_NETWORK".toList,
    "CREDENTIAL_ACCESS".toList, "FILESYSTEM_WRITE".toList, "PRODUCTION_CONTACT".toList,
    "SLACK".toList, "LESLIE".toList, "PONDR".toList, "NOTION".toList,
    "EXTERNAL_PUBLICATION".toList]

def reasonerTurnResponseVersion : JsString := "nightwatch.reasoner-turn-response.v1".toList

def reasonerMaxIntentsPerTurn : Nat := 8

def reasonerMaxHypothesesPerTurn : Nat := 8

abbrev ProtocolResult (α : Type) : Type := Except ReasonerFailureClass α

def parseString : JsValue → Option JsString
  | .str s => some s
  | _ => none

def parseSafeId (value : JsValue) : Option JsString :=
  (parseString value).filter isSafeId

def parseSafeCode (value : JsValue) : Option JsString :=
  (parseString value).filter isSafeCode

def isEvidenceItem (item : JsString) : Bool :=
  !item.isEmpty && utf16Length item ≤ 512 && !hasSecret item

/-- `stringArray(value)`. -/
def stringArray : JsValue → Option (List JsString)
  | .arr items =>
      if items.length ≤ 16 then
        (JsValue.strings items).filter fun strings => strings.all isEvidenceItem
      else none
  | _ => none

def orReject {α : Type} (failure : ReasonerFailureClass) : Option α → ProtocolResult α
  | some a => .ok a
  | none => .error failure

def parseCallTool (context : ReasonerValidationContext) (fields : List (JsString × JsValue)) :
    ProtocolResult AgentIntent := do
  let toolId ← orReject .malformedOutput (parseSafeId (JsValue.field fields "toolId".toList))
  let _ ← orReject .unknownTool
    (context.allowedToolIds.find? fun allowed => allowed.text == toolId)
  let tool ← orReject .unknownTool (lookupAgentTool toolId)
  if tool.environment ∈ context.authorizedEnvironments then
    if decideOwnerScope tool.authorizationClass then
      match JsValue.field fields "arguments".toList with
      | .obj arguments =>
          .ok (.callTool tool.text (context.argumentDigest arguments) arguments)
      | _ => .error .malformedOutput
    else .error .unsafeIntent
  else .error .unauthorizedEnvironment

/-- `parseHypothesis(value)`, and the same checks of a `FORM_HYPOTHESIS` intent. -/
def parseDraft (fields : List (JsString × JsValue)) : ProtocolResult ReasonerHypothesisDraft := do
  let evidenceRefs := stringArray (JsValue.field fields "evidenceRefs".toList)
  let hypothesisId ← orReject .malformedOutput
    (parseSafeId (JsValue.field fields "hypothesisId".toList))
  let statement ← orReject .malformedOutput
    ((parseString (JsValue.field fields "statement".toList)).filter fun statement =>
      !statement.isEmpty && utf16Length statement ≤ 1024)
  let refs ← orReject .malformedOutput evidenceRefs
  if hasSecret statement then .error .secretEcho
  else .ok ⟨hypothesisId, statement, refs⟩

def parseTerminationReason (value : JsValue) : Option AgentTerminationReason :=
  (parseString value).bind (memberNamed agentTerminationReasons AgentTerminationReason.text)

def parseKind (context : ReasonerValidationContext) (kind : JsString)
    (fields : List (JsString × JsValue)) : ProtocolResult AgentIntent :=
  if kind ∈ unsafeIntentKinds then .error .unsafeIntent
  else if kind = "CALL_TOOL".toList then parseCallTool context fields
  else if kind = "FORM_HYPOTHESIS".toList then do
    let draft ← parseDraft fields
    .ok (.formHypothesis draft.hypothesisId draft.statement draft.evidenceRefs)
  else if kind = "PROPOSE_CANDIDATE".toList then do
    let candidateId ← orReject .malformedOutput
      (parseSafeId (JsValue.field fields "candidateId".toList))
    let evidenceRefs ← orReject .malformedOutput
      ((stringArray (JsValue.field fields "evidenceRefs".toList)).filter fun refs => !refs.isEmpty)
    .ok (.proposeCandidate candidateId evidenceRefs)
  else if kind = "REJECT_CANDIDATE".toList then do
    let candidateId ← orReject .malformedOutput
      (parseSafeId (JsValue.field fields "candidateId".toList))
    let reasonCode ← orReject .malformedOutput
      (parseSafeCode (JsValue.field fields "reasonCode".toList))
    .ok (.rejectCandidate candidateId reasonCode)
  else if kind = "REPLAN".toList then do
    let reasonCode ← orReject .malformedOutput
      (parseSafeCode (JsValue.field fields "reasonCode".toList))
    .ok (.replan reasonCode)
  else if kind = "PAUSE".toList then .ok .pause
  else if kind = "CANCEL".toList then .ok .cancel
  else if kind = "TERMINATE".toList then do
    let reason ← orReject .malformedOutput
      (parseTerminationReason (JsValue.field fields "reason".toList))
    .ok (.terminate reason)
  else .error .unknownIntent

def parseIntent (context : ReasonerValidationContext) : JsValue → ProtocolResult AgentIntent
  | .obj fields =>
      match JsValue.field fields "kind".toList with
      | .str kind => parseKind context kind fields
      | _ => .error .malformedOutput
  | _ => .error .malformedOutput

def parseHypothesis : JsValue → ProtocolResult ReasonerHypothesisDraft
  | .obj fields => parseDraft fields
  | _ => .error .malformedOutput

def parseEach {α : Type} (parse : JsValue → ProtocolResult α) :
    List JsValue → ProtocolResult (List α)
  | [] => .ok []
  | item :: rest => do
      let first ← parse item
      let others ← parseEach parse rest
      .ok (first :: others)

def parseHypotheses : JsValue → ProtocolResult (List ReasonerHypothesisDraft)
  | .undefined => .ok []
  | .arr items =>
      if items.length ≤ reasonerMaxHypothesesPerTurn then parseEach parseHypothesis items
      else .error .malformedOutput
  | _ => .error .malformedOutput

def parseIntents (context : ReasonerValidationContext) : JsValue → ProtocolResult (List AgentIntent)
  | .arr items =>
      if !items.isEmpty && items.length ≤ reasonerMaxIntentsPerTurn then
        parseEach (parseIntent context) items
      else .error .malformedOutput
  | _ => .error .malformedOutput

def validateReasonerTurnResponse (context : ReasonerValidationContext) :
    JsValue → ProtocolResult ReasonerTurnResponse
  | .obj fields =>
      match JsValue.field fields "schemaVersion".toList with
      | .str version =>
          if version = reasonerTurnResponseVersion then do
            let intents ← parseIntents context (JsValue.field fields "intents".toList)
            let hypotheses ← parseHypotheses (JsValue.field fields "hypotheses".toList)
            .ok ⟨intents, hypotheses⟩
          else .error .malformedOutput
      | _ => .error .malformedOutput
  | _ => .error .malformedOutput

def proposeCandidateRequiresEvidence : AgentIntent → Bool
  | .proposeCandidate _ evidenceRefs => !evidenceRefs.isEmpty
  | _ => true

end NightWatch.AgentProtocol.Validate
