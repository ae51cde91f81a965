import NightWatch.Lib.CanonicalText
import NightWatch.Triage.ReplayAgreement

/-!
Replay plans as documents: what the validation reads of a value of any type, the canonical text
that the identity of a plan is a hash of, and the documents that are built from plans.
-/

namespace NightWatch.Triage.ReplayDocuments

open Lib.JsText Lib.JsData Lib.JsRuntime Lib.CanonicalText Lib.Slots
open Lib.JsData.JsValue (field)
open ReplayPlan
open ReplayEnvelope (kindText phaseText planVersion)
open ReplayAgreement (then_eq_ok)

def ordinalValue (ordinal : ℤ) : JsValue := .num (.finite (ordinal : ℚ))

def occurrenceValue (occurrence : ReplayOccurrence) : JsValue :=
  .obj [("ordinal".toList, ordinalValue occurrence.ordinal),
    ("expectedActionId".toList, .str occurrence.expectedActionId)]

def payloadSlots (plan : TriageReplayPlanV2) : List (String × Option JsValue) :=
  [("schemaVersion", some (.str planVersion)),
    ("candidateKind", some (.str (kindText plan.candidateKind))),
    ("anomalyFingerprint", some (.str plan.anomalyFingerprint)),
    ("originalOccurrences", some (.arr (plan.originalOccurrences.map occurrenceValue))),
    ("retainedOccurrenceOrdinals", some (.arr (plan.retainedOccurrenceOrdinals.map ordinalValue))),
    ("phase", some (.str (phaseText plan.phase))),
    ("targetId", some (.str plan.targetId)),
    ("contractVersion", some (.str plan.contractVersion)),
    ("contractDigest", some (.str plan.contractDigest)),
    ("catalogVersion", some (.str plan.catalogVersion)),
    ("sourceVersion", some (.str plan.sourceVersion)),
    ("routeClass", some (.str plan.routeClass)),
    ("semanticExpectationId", plan.semanticExpectationId.map .str),
    ("sourceEvidenceDigest", plan.sourceEvidenceDigest.map .str)]

def payloadNames : List String :=
  ["schemaVersion", "candidateKind", "anomalyFingerprint", "originalOccurrences",
    "retainedOccurrenceOrdinals", "phase", "targetId", "contractVersion", "contractDigest",
    "catalogVersion", "sourceVersion", "routeClass", "semanticExpectationId",
    "sourceEvidenceDigest"]

def payloadValue (plan : TriageReplayPlanV2) : JsValue := .obj (ofSlots (payloadSlots plan))

def documentSlots (plan : TriageReplayPlanV2) : List (String × Option JsValue) :=
  payloadSlots plan ++ [("planId", some (.str plan.planId))]

def documentOf (plan : TriageReplayPlanV2) : JsValue := .obj (ofSlots (documentSlots plan))

/-- `ALLOWED_KEYS_V2`. -/
def documentNames : List String := payloadNames ++ ["planId"]

theorem names_documentSlots (plan : TriageReplayPlanV2) :
    (documentSlots plan).map Prod.fst = documentNames := rfl

section Validation

variable (rt : Runtime) (hash : JsString → JsString)

def payloadText (plan : TriageReplayPlanV2) : JsString :=
  canonical rt.numberText rt.localeLe (payloadValue (planPayload plan))

/-- `hash` stands for the first digits of the SHA-256 of a text. -/
def payloadDigest (plan : TriageReplayPlanV2) : JsString :=
  hash (canonical rt.numberText rt.localeLe (payloadValue plan))

def stringField (name : String) (value : JsValue) (pattern : JsString → Bool) (maxLen : Nat) :
    Except JsString JsString :=
  match value with
  | .str s => do
      validateStringField name s pattern maxLen
      .ok s
  | _ => .error (name ++ "_NOT_STRING").toList

/-- A field that is checked only where it is not `undefined`. -/
def optionalField (name : String) (value : JsValue) (pattern : JsString → Bool) (maxLen : Nat) :
    Except JsString (Option JsString) :=
  match value with
  | .undefined => .ok none
  | value => (stringField name value pattern maxLen).map some

def wholeOrdinal (reason : String) : JsValue → Except JsString ℤ
  | .num (.finite q) => if q.den = 1 ∧ 0 ≤ q.num then .ok q.num else .error reason.toList
  | _ => .error reason.toList

def readOccurrences : (seen : List ℤ) → List JsValue → Except JsString (List ReplayOccurrence)
  | _, [] => .ok []
  | seen, .obj fields :: rest => do
      let ordinal ← wholeOrdinal "occurrence_ordinal_INVALID" (field fields "ordinal".toList)
      failIf (decide (ordinal ∈ seen)) "occurrence_ordinal_DUPLICATE".toList
      let id ← stringField "expectedActionId" (field fields "expectedActionId".toList) isActionId
        120
      failIf (hasSentinel id) "occurrence_EXPECTED_ACTION_ID_SENTINEL".toList
      let others ← readOccurrences (ordinal :: seen) rest
      .ok (⟨ordinal, id⟩ :: others)
  | _, _ :: _ => .error "originalOccurrence_INVALID".toList

def readRetained (ordinals : List ℤ) : List JsValue → Except JsString (List ℤ)
  | [] => .ok []
  | value :: rest => do
      let retained ← wholeOrdinal "retainedOrdinal_INVALID" value
      failIf (decide (retained ∉ ordinals)) "REPLAY_PLAN_V2_UNKNOWN_ORDINAL".toList
      let others ← readRetained ordinals rest
      .ok (retained :: others)

def arrayField (reason : String) : JsValue → Except JsString (List JsValue)
  | .arr items => .ok items
  | _ => .error reason.toList

def wordField {α : Type} (text : α → JsString) (words : List α) (reason : String) (value : JsValue) :
    Except JsString α :=
  match value with
  | .str s => ((words.find? fun word => text word = s).map .ok).getD (.error reason.toList)
  | _ => .error reason.toList

def checkKnownKeys (fields : List (JsString × JsValue)) : Except JsString Unit :=
  match (fields.map Prod.fst).find? fun key => !documentNames.any fun name => name.toList = key with
  | some key => .error ("REPLAY_PLAN_V2_UNKNOWN_FIELD:".toList ++ key)
  | none => .ok ()

/-- `obj[name] !== version`. -/
def isText (value : JsValue) (text : JsString) : Bool :=
  match value with
  | .str s => decide (s = text)
  | _ => false

def validateTriageReplayPlanV2 (document : JsValue) : Except JsString TriageReplayPlanV2 :=
  match document with
  | .obj fields => do
      checkKnownKeys fields
      failIf (!isText (field fields "schemaVersion".toList) planVersion)
        "REPLAY_PLAN_V2_VERSION_MISMATCH".toList
      let candidateKind ← wordField kindText [.journey, .exploration, .api]
        "REPLAY_PLAN_V2_KIND_INVALID" (field fields "candidateKind".toList)
      let phase ← wordField phaseText [.freshExactReplay, .reducedCandidate]
        "REPLAY_PLAN_V2_PHASE_INVALID" (field fields "phase".toList)
      let anomalyFingerprint ← stringField "anomalyFingerprint"
        (field fields "anomalyFingerprint".toList) isFingerprint 64
      let routeClass ← stringField "routeClass" (field fields "routeClass".toList) isRouteClass 120
      let targetId ← stringField "targetId" (field fields "targetId".toList) isActionId 120
      let contractVersion ← stringField "contractVersion" (field fields "contractVersion".toList)
        isGenericVersion 200
      let contractDigest ← digestField (field fields "contractDigest".toList)
      let catalogVersion ← stringField "catalogVersion" (field fields "catalogVersion".toList)
        isGenericVersion 200
      let sourceVersion ← stringField "sourceVersion" (field fields "sourceVersion".toList)
        isGenericVersion 200
      let items ← arrayField "originalOccurrences_INVALID"
        (field fields "originalOccurrences".toList)
      failIf (decide (items.length = 0 ∨ 64 < items.length)) "originalOccurrences_INVALID".toList
      let original ← readOccurrences [] items
      let ordinals ← arrayField "retainedOccurrenceOrdinals_INVALID"
        (field fields "retainedOccurrenceOrdinals".toList)
      failIf (decide (64 < ordinals.length)) "retainedOccurrenceOrdinals_INVALID".toList
      let retained ← readRetained (original.map ReplayOccurrence.ordinal) ordinals
      failIf (!isOrderPreservingOrdinalSubsequence original retained)
        "REPLAY_PLAN_V2_NOT_SUBSEQUENCE".toList
      failIf (decide (phase = .freshExactReplay ∧
          retained.mergeSort ≠ (original.map ReplayOccurrence.ordinal).mergeSort))
        "FRESH_EXACT_MUST_MATCH_ORIGINAL_OCCURRENCES".toList
      let grammar := candidateKind.grammarV2
      failIf (decide (original.length < grammar.originalMin ∨
        grammar.originalMax < original.length)) grammar.originalCardinalityReason
      failIf (decide (retained.length < grammar.retainedMin ∨
        grammar.retainedMax < retained.length)) grammar.retainedCardinalityReason
      let semanticExpectationId ← optionalField "semanticExpectationId"
        (field fields "semanticExpectationId".toList) isActionId 120
      let sourceEvidenceDigest ← optionalField "sourceEvidenceDigest"
        (field fields "sourceEvidenceDigest".toList) isEvidenceDigest 64
      let planId ← planIdField (field fields "planId".toList)
      let plan : TriageReplayPlanV2 := {
        planId, candidateKind, anomalyFingerprint, originalOccurrences := original,
        retainedOccurrenceOrdinals := retained, phase, targetId, contractVersion, contractDigest,
        catalogVersion, sourceVersion, routeClass, semanticExpectationId, sourceEvidenceDigest }
      failIf (decide (planId ≠ deterministicPlanIdV2 (payloadDigest rt hash) plan))
        "REPLAY_PLAN_V2_ID_MISMATCH".toList
      .ok plan
  | _ => .error "REPLAY_PLAN_V2_NOT_OBJECT".toList
where
  digestField : JsValue → Except JsString JsString
    | .str s => do
        failIf (decide (utf16Length s = 0 ∨ 200 < utf16Length s))
          "contractDigest_LENGTH_INVALID".toList
        failIf (!isSha256 s && !isPrefixedDigest s) "contractDigest_PATTERN_INVALID".toList
        .ok s
    | _ => .error "contractDigest_LENGTH_INVALID".toList
  planIdField : JsValue → Except JsString JsString
    | .str s => do
        failIf (!isPlanId s) "planId_V2_PATTERN_INVALID".toList
        .ok s
    | _ => .error "planId_V2_PATTERN_INVALID".toList

def createTriageReplayPlanV2 (input : TriageReplayPlanV2) : Except JsString JsValue :=
  let plan := { input with planId := deterministicPlanIdV2 (payloadDigest rt hash) input }
  match validateTriageReplayPlanV2 rt hash (documentOf plan) with
  | .error reason => .error ("REPLAY_PLAN_V2_CREATE_FAILED:".toList ++ reason)
  | .ok _ => .ok (documentOf plan)

end Validation

section Fields

variable {name reason : String} {value : JsValue} {pattern : JsString → Bool} {maxLen : Nat}

theorem stringField_eq_ok {s : JsString} : stringField name value pattern maxLen = .ok s ↔
    value = .str s ∧ validateStringField name s pattern maxLen = .ok () := by
  cases value with
  | str t =>
      simp only [stringField, then_eq_ok, Except.ok.injEq, JsValue.str.injEq]
      rw [and_comm, and_congr_right_iff]
      rintro rfl
      rfl
  | _ => simp [stringField]

theorem optionalField_eq_ok {s : Option JsString} :
    optionalField name value pattern maxLen = .ok s ↔ value = (s.map JsValue.str).getD .undefined ∧
        validateOptionalField name s pattern maxLen = .ok () := by
  cases value with
  | undefined =>
      cases s with
      | none => simp [optionalField, validateOptionalField]
      | some t => simp [optionalField]
  | str t =>
      cases s with
      | none => cases h : stringField name (.str t) pattern maxLen <;> simp [optionalField, h, Except.map]
      | some u =>
          have hfield : stringField name (.str t) pattern maxLen = .ok u ↔
              JsValue.str t = .str u ∧ validateStringField name u pattern maxLen = .ok () :=
            stringField_eq_ok
          simp only [Option.map_some, Option.getD_some, validateOptionalField, ← hfield]
          cases h : stringField name (.str t) pattern maxLen <;> simp [optionalField, h, Except.map]
  | _ => cases s <;> simp [optionalField, stringField, Except.map]

theorem wholeOrdinal_eq_ok {z : ℤ} :
    wholeOrdinal reason value = .ok z ↔ value = ordinalValue z ∧ 0 ≤ z := by
  cases value with
  | num n =>
      cases n with
      | finite q =>
          simp only [wholeOrdinal, ordinalValue, JsValue.num.injEq, JsNumber.finite.injEq]
          constructor
          · intro h
            split at h
            · next hq =>
                obtain rfl := Except.ok.inj h
                exact ⟨((Rat.den_eq_one_iff q).mp hq.1).symm, hq.2⟩
            · contradiction
          · rintro ⟨rfl, hz⟩
            simp [hz]
      | _ => simp [wholeOrdinal, ordinalValue]
  | _ => simp [wholeOrdinal, ordinalValue]

theorem arrayField_eq_ok {items : List JsValue} :
    arrayField reason value = .ok items ↔ value = .arr items := by
  cases value <;> simp [arrayField]

theorem wordField_eq_ok {α : Type} {text : α → JsString} {words : List α} {word : α}
    (hinj : Function.Injective text) (hwords : ∀ word, word ∈ words) :
    wordField text words reason value = .ok word ↔ value = .str (text word) := by
  cases value with
  | str s =>
      rw [wordField, JsValue.str.injEq]
      cases hfind : words.find? fun other => text other = s with
      | none =>
          have hnone := List.find?_eq_none.mp hfind word (hwords word)
          have hne : s ≠ text word := fun heq => hnone (by simp [heq])
          simp [hne]
      | some found =>
          have hfound : text found = s := by simpa using List.find?_some hfind
          subst hfound
          simp [hinj.eq_iff]
  | _ => simp [wordField]

theorem kindText_injective : Function.Injective kindText := by
  intro a b h
  cases a <;> cases b <;> first | rfl | exact absurd h (by decide)

theorem phaseText_injective : Function.Injective phaseText := by
  intro a b h
  cases a <;> cases b <;> first | rfl | exact absurd h (by decide)

theorem isText_iff {text : JsString} : isText value text = true ↔ value = .str text := by
  cases value <;> simp [isText]

theorem checkKnownKeys_eq_ok {fields : List (JsString × JsValue)} : checkKnownKeys fields = .ok () ↔
      ∀ key ∈ fields.map Prod.fst, ∃ name ∈ documentNames, name.toList = key := by
  rw [checkKnownKeys]
  cases hfind : (fields.map Prod.fst).find? fun key =>
      !documentNames.any fun name => name.toList = key with
  | none =>
      have hall := List.find?_eq_none.mp hfind
      simpa using hall
  | some key =>
      have hmem := List.mem_of_find?_eq_some hfind
      have hunknown := List.find?_some hfind
      simp only [reduceCtorEq, false_iff]
      intro hknown
      obtain ⟨name, hname, heq⟩ := hknown key hmem
      simp only [Bool.not_eq_true', List.any_eq_false, decide_eq_true_eq] at hunknown
      exact hunknown name hname heq

end Fields

end NightWatch.Triage.ReplayDocuments
