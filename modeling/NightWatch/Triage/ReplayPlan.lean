import NightWatch.Triage.Types

namespace NightWatch.Triage.ReplayPlan

open Lib.JsText Triage.Types

inductive ReplayCandidateKind where
  | journey
  | exploration
  | api
  deriving DecidableEq

structure ReplayOccurrence where
  ordinal : ℤ
  expectedActionId : JsString
  deriving DecidableEq

structure TriageReplayPlanV2 where
  planId : JsString
  candidateKind : ReplayCandidateKind
  anomalyFingerprint : JsString
  originalOccurrences : List ReplayOccurrence
  retainedOccurrenceOrdinals : List ℤ
  phase : ReplayPhase
  targetId : JsString
  contractVersion : JsString
  contractDigest : JsString
  catalogVersion : JsString
  sourceVersion : JsString
  routeClass : JsString
  semanticExpectationId : Option JsString
  sourceEvidenceDigest : Option JsString
  deriving DecidableEq

def isLowerHexDigit (c : Char) : Bool := c.isDigit || ('a' ≤ c && c ≤ 'f')

def isActionChar (c : Char) : Bool := c.isAlphanum || c ∈ ['_', '.', '-']

/-- `ACTION_ID_RE`. -/
def isActionId (s : JsString) : Bool := upTo 120 isActionChar s

/-- `ROUTE_CLASS_RE`. -/
def isRouteClass : JsString → Bool
  | [] => false
  | first :: rest =>
      first == '/' && rest.all fun c => c.isAlphanum || c ∈ "._~!$&'()*+,;=:@%/-".toList

def isTagged (tag : String) (digits : Nat) (s : JsString) : Bool :=
  startsWith s tag.toList &&
    decide ((s.drop tag.toList.length).length = digits) &&
    (s.drop tag.toList.length).all isLowerHexDigit

/-- `FINGERPRINT_RE`. -/
def isFingerprint : JsString → Bool := isTagged "fp:sha256:" 24

/-- `PLAN_ID_V2_RE`. -/
def isPlanId : JsString → Bool := isTagged "rp2:sha256:" 24

/-- `EVIDENCE_DIGEST_RE`. -/
def isEvidenceDigest : JsString → Bool := isTagged "ev:sha256:" 24

/-- `SHA256_RE`. -/
def isSha256 : JsString → Bool := isTagged "sha256:" 64

/-- `GENERIC_VERSION_RE`. -/
def isGenericVersion : JsString → Bool :=
  upTo 200 fun c => c.isAlphanum || c ∈ "._~:@%/-".toList

def isPrefixedDigest : JsString → Bool :=
  upTo 200 fun c => c.isAlphanum || c ∈ ":_./-".toList

def startsWithWord (s : JsString) (word : String) : Bool :=
  startsWith (s.map Char.toLower) (word.toList.map Char.toLower)

def sentinelWords : List String :=
  ["CUSTOMER_SENTINEL", "ACCOUNT_SENTINEL", "EMAIL_SENTINEL", "COST_SENTINEL", "TOKEN_SENTINEL"]

def isTokenChar (c : Char) : Bool := c.isAlphanum || c == '_' || c == '-'

def isLabelChar (c : Char) : Bool := c.isAlpha || c == ' '

/-- `SENTINEL_RE` at the start of a text. -/
def sentinelAt (s : JsString) : Bool :=
  sentinelWords.any (startsWithWord s) ||
    (startsWithWord s "Bearer" && (s.drop 6).head?.any isSpace) ||
    (startsWithWord s "eyJ" &&
      decide (8 ≤ ((s.drop 3).takeWhile isTokenChar).length) &&
      decide (((s.drop 3).dropWhile isTokenChar).head? = some '.')) ||
    (startsWithWord s "AKIA" && decide (16 ≤ ((s.drop 4).takeWhile Char.isAlphanum).length)) ||
    (startsWithWord s "-----BEGIN " &&
      endsWith (((s.drop 11).takeWhile isLabelChar).map Char.toLower) "private key".toList &&
      startsWith ((s.drop 11).dropWhile isLabelChar) "-----".toList)

/-- `SENTINEL_RE.test(s)`. -/
def hasSentinel (s : JsString) : Bool := s.tails.any sentinelAt

structure ReplayPlanGrammarV2 where
  originalMin : Nat
  originalMax : Nat
  retainedMin : Nat
  retainedMax : Nat
  originalCardinalityReason : JsString
  retainedCardinalityReason : JsString

inductive ReplayKindGuardId where
  | rippleJourneyPrecondition
  | explorationSafeActionCatalog
  | phase5ApiKnownRead

inductive SemanticClassSource where
  | explorationSafeActionCatalog
  | defaultKnownRead
  deriving DecidableEq

structure ReplayKindSemantics where
  admittedPhases : List ReplayPhase
  guard : ReplayKindGuardId
  phaseRejectionReason : JsString
  invalidFallbackReason : JsString
  semanticClassSource : SemanticClassSource

/-- `REPLAY_KIND_CAPABILITIES[kind].grammarV2`. -/
def ReplayCandidateKind.grammarV2 : ReplayCandidateKind → ReplayPlanGrammarV2
  | .journey | .exploration => {
      originalMin := 1
      originalMax := 64
      retainedMin := 0
      retainedMax := 64
      originalCardinalityReason := "originalOccurrences_INVALID".toList
      retainedCardinalityReason := "retainedOccurrenceOrdinals_INVALID".toList }
  | .api => {
      originalMin := 1
      originalMax := 1
      retainedMin := 1
      retainedMax := 1
      originalCardinalityReason := "API_V2_ORIGINAL_MUST_BE_SINGLE".toList
      retainedCardinalityReason := "API_V2_RETAINED_MUST_BE_SINGLE".toList }

/-- `REPLAY_KIND_CAPABILITIES[kind].semantics`. -/
def ReplayCandidateKind.semantics : ReplayCandidateKind → ReplayKindSemantics
  | .journey => {
      admittedPhases := [.freshExactReplay]
      guard := .rippleJourneyPrecondition
      phaseRejectionReason := "PRECONDITION_DIVERGENCE".toList
      invalidFallbackReason := "PRECONDITION_DIVERGENCE".toList
      semanticClassSource := .defaultKnownRead }
  | .exploration => {
      admittedPhases := [.freshExactReplay, .reducedCandidate]
      guard := .explorationSafeActionCatalog
      phaseRejectionReason := "PRECONDITION_DIVERGENCE".toList
      invalidFallbackReason := "ACTION_NOT_APPROVED".toList
      semanticClassSource := .explorationSafeActionCatalog }
  | .api => {
      admittedPhases := [.freshExactReplay, .reducedCandidate]
      guard := .phase5ApiKnownRead
      phaseRejectionReason := "PRECONDITION_DIVERGENCE".toList
      invalidFallbackReason := "ACTION_NOT_APPROVED".toList
      semanticClassSource := .defaultKnownRead }

def failIf (condition : Bool) (reason : JsString) : Except JsString Unit :=
  if condition then .error reason else .ok ()

theorem failIf_eq_ok {condition : Bool} {reason : JsString} :
    failIf condition reason = .ok () ↔ condition = false := by
  cases condition <;> simp [failIf]

def validateStringField (name : String) (value : JsString) (pattern : JsString → Bool)
    (maxLen : Nat) : Except JsString Unit := do
  failIf (decide (utf16Length value = 0 ∨ maxLen < utf16Length value))
    (name ++ "_LENGTH_INVALID").toList
  failIf (!pattern value) (name ++ "_PATTERN_INVALID").toList

def validateOptionalField (name : String) (value : Option JsString) (pattern : JsString → Bool)
    (maxLen : Nat) : Except JsString Unit :=
  match value with
  | none => .ok ()
  | some value => validateStringField name value pattern maxLen

/-- The fields that the identity of a plan is computed over: all but the identity itself, the
retained ordinals in order. -/
def planPayload (plan : TriageReplayPlanV2) : TriageReplayPlanV2 :=
  { plan with
    planId := []
    retainedOccurrenceOrdinals := plan.retainedOccurrenceOrdinals.mergeSort }

/-- `digest` stands for the first digits of the hash of the payload's canonical text. -/
def deterministicPlanIdV2 (digest : TriageReplayPlanV2 → JsString) (plan : TriageReplayPlanV2) :
    JsString :=
  "rp2:sha256:".toList ++ digest (planPayload plan)

/-- The loop of `isOrderPreservingOrdinalSubsequence`: whether every retained ordinal is
met. -/
def meetsAll : List ℤ → List ℤ → Bool
  | _, [] => true
  | [], _ :: _ => false
  | ordinal :: ordinals, retained :: rest =>
      if ordinal = retained then meetsAll ordinals rest else meetsAll ordinals (retained :: rest)

def isOrderPreservingOrdinalSubsequence (original : List ReplayOccurrence)
    (retainedOrdinals : List ℤ) : Bool :=
  let ordinals := original.map ReplayOccurrence.ordinal
  if ordinals.length < retainedOrdinals.length then false
  else if retainedOrdinals.length = 0 then decide (ordinals.length = 0)
  else meetsAll ordinals retainedOrdinals

def checkOccurrences : (seen : List ℤ) → List ReplayOccurrence → Except JsString Unit
  | _, [] => .ok ()
  | seen, occurrence :: rest => do
      failIf (decide (occurrence.ordinal < 0)) "occurrence_ordinal_INVALID".toList
      failIf (decide (occurrence.ordinal ∈ seen)) "occurrence_ordinal_DUPLICATE".toList
      validateStringField "expectedActionId" occurrence.expectedActionId isActionId 120
      failIf (hasSentinel occurrence.expectedActionId)
        "occurrence_EXPECTED_ACTION_ID_SENTINEL".toList
      checkOccurrences (occurrence.ordinal :: seen) rest

def checkRetained (ordinals : List ℤ) : List ℤ → Except JsString Unit
  | [] => .ok ()
  | retained :: rest => do
      failIf (decide (retained < 0)) "retainedOrdinal_INVALID".toList
      failIf (decide (retained ∉ ordinals)) "REPLAY_PLAN_V2_UNKNOWN_ORDINAL".toList
      checkRetained ordinals rest

/-- The plan is of its declared type: the tests of `typeof` and of unknown fields pass. -/
def validateTriageReplayPlanV2 (digest : TriageReplayPlanV2 → JsString)
    (plan : TriageReplayPlanV2) : Except JsString Unit := do
  validateStringField "anomalyFingerprint" plan.anomalyFingerprint isFingerprint 64
  validateStringField "routeClass" plan.routeClass isRouteClass 120
  validateStringField "targetId" plan.targetId isActionId 120
  validateStringField "contractVersion" plan.contractVersion isGenericVersion 200
  failIf (decide (utf16Length plan.contractDigest = 0 ∨ 200 < utf16Length plan.contractDigest))
    "contractDigest_LENGTH_INVALID".toList
  failIf (!isSha256 plan.contractDigest && !isPrefixedDigest plan.contractDigest)
    "contractDigest_PATTERN_INVALID".toList
  validateStringField "catalogVersion" plan.catalogVersion isGenericVersion 200
  validateStringField "sourceVersion" plan.sourceVersion isGenericVersion 200
  let original := plan.originalOccurrences
  failIf (decide (original.length = 0 ∨ 64 < original.length))
    "originalOccurrences_INVALID".toList
  checkOccurrences [] original
  let retained := plan.retainedOccurrenceOrdinals
  failIf (decide (64 < retained.length)) "retainedOccurrenceOrdinals_INVALID".toList
  checkRetained (original.map ReplayOccurrence.ordinal) retained
  failIf (!isOrderPreservingOrdinalSubsequence original retained)
    "REPLAY_PLAN_V2_NOT_SUBSEQUENCE".toList
  failIf (decide (plan.phase = .freshExactReplay ∧
      retained.mergeSort ≠ (original.map ReplayOccurrence.ordinal).mergeSort))
    "FRESH_EXACT_MUST_MATCH_ORIGINAL_OCCURRENCES".toList
  let grammar := plan.candidateKind.grammarV2
  failIf (decide (original.length < grammar.originalMin ∨ grammar.originalMax < original.length))
    grammar.originalCardinalityReason
  failIf (decide (retained.length < grammar.retainedMin ∨ grammar.retainedMax < retained.length))
    grammar.retainedCardinalityReason
  validateOptionalField "semanticExpectationId" plan.semanticExpectationId isActionId 120
  validateOptionalField "sourceEvidenceDigest" plan.sourceEvidenceDigest isEvidenceDigest 64
  failIf (!isPlanId plan.planId) "planId_V2_PATTERN_INVALID".toList
  failIf (decide (plan.planId ≠ deterministicPlanIdV2 digest plan))
    "REPLAY_PLAN_V2_ID_MISMATCH".toList

/-- `ordinalToActionMap(occurrences).get(ordinal)`: the last occurrence with an ordinal is the
one that the map holds. -/
def actionOf (originalOccurrences : List ReplayOccurrence) (ordinal : ℤ) : Option JsString :=
  (originalOccurrences.reverse.find? fun occurrence => occurrence.ordinal = ordinal).map
    ReplayOccurrence.expectedActionId

def duplicateActionOccurrences (originalOccurrences : List ReplayOccurrence) :
    List (JsString × List ℤ) :=
  let ids := (originalOccurrences.map ReplayOccurrence.expectedActionId).dedup
  let grouped := ids.map fun id =>
    (id, (originalOccurrences.filter fun occurrence => occurrence.expectedActionId = id).map
      ReplayOccurrence.ordinal)
  (grouped.filter fun entry => 1 < entry.2.length).map fun entry => (entry.1, entry.2.mergeSort)

def hasDuplicateActionIds (originalOccurrences : List ReplayOccurrence) : Bool :=
  decide (0 < (duplicateActionOccurrences originalOccurrences).length)

inductive DuplicateActionHandling where
  | unambiguousSingleOccurrence
  | occurrenceDistinguished
  deriving DecidableEq

def duplicateActionHandling (originalOccurrences : List ReplayOccurrence) :
    DuplicateActionHandling :=
  if hasDuplicateActionIds originalOccurrences then .occurrenceDistinguished
  else .unambiguousSingleOccurrence

/-- The text `id#occ:ordinal`. -/
def tokenText (actionId : JsString) (ordinal : ℤ) : JsString :=
  actionId ++ "#occ:".toList ++ decimal ordinal.toNat

def occurrenceIdentityToken (expectedActionId : JsString) (ordinal : ℤ) :
    Except JsString JsString := do
  failIf (!isActionId expectedActionId || hasSentinel expectedActionId)
    "OCCURRENCE_IDENTITY_TOKEN_ACTION_ID_INVALID".toList
  failIf (decide (ordinal < 0 ∨ 999999 < ordinal))
    "OCCURRENCE_IDENTITY_TOKEN_ORDINAL_INVALID".toList
  .ok (tokenText expectedActionId ordinal)

end NightWatch.Triage.ReplayPlan
