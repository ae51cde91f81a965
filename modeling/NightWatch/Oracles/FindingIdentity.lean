import NightWatch.Oracles.Clusters
import NightWatch.Oracles.HookTotality
import NightWatch.Oracles.ReceiptIdentity

namespace NightWatch.Oracles.FindingIdentity

open Lib.JsText Lib.JsData Lib.JsRuntime Lib.Json Oracles.Projections Oracles.Invariants
  Oracles.Semantic Oracles.Expectations
open Oracles.Clusters (relationIdOf)
open Oracles.HookTotality (checkedFindings_eq_some)
open Oracles.ReceiptIdentity

section Evaluations

variable (numberText : ℚ → JsString) (ctx : ProjectionContext) (projections : List ProjectionNode)

theorem evaluateCollection_kind (contract : CollectionItemContract) (root : ProjectionNode) :
    (evaluateCollection contract root).invariantKind = .collectionItemContract ∧
      (evaluateCollection contract root).relationId = none := by
  rw [evaluateCollection]
  split
  · exact ⟨rfl, rfl⟩
  · split
    · exact ⟨rfl, rfl⟩
    · rw [evaluateItems]
      split_ifs
      · exact ⟨rfl, rfl⟩
      · exact ⟨rfl, rfl⟩
      · exact ⟨rfl, rfl⟩

theorem evaluateInvariant_kind (invariant : InvariantDefinition) :
    (evaluateInvariant numberText ctx projections invariant).invariantKind = invariant.kind := by
  cases invariant with
  | collectionItemContract contract =>
      rw [evaluateInvariant]
      cases projections[0]? with
      | none => rfl
      | some root => exact (evaluateCollection_kind contract root).1
  | _ => rfl

theorem evaluateInvariant_relation {invariant : InvariantDefinition}
    (h : (evaluateInvariant numberText ctx projections invariant).verdict = .violated) :
    (evaluateInvariant numberText ctx projections invariant).relationId =
      relationIdOf invariant := by
  cases invariant with
  | collectionItemContract contract =>
      rw [evaluateInvariant]
      cases projections[0]? with
      | none => rfl
      | some root => exact (evaluateCollection_kind contract root).2
  | numericSumRelation relationId collectionPath numericFieldPath scalarPath =>
      have hne : onFirst projections (fun root =>
          sumVerdict numberText ctx root collectionPath numericFieldPath scalarPath) ≠
          .notApplicable := by
        intro hnone
        have hverdict : onFirst projections (fun root =>
          sumVerdict numberText ctx root collectionPath numericFieldPath scalarPath) =
          .violated := h
        rw [hnone] at hverdict
        contradiction
      exact if_neg hne
  | countRelation relationId operation collectionPath scalarPath expectedCount =>
      have hne : onFirst projections (fun root => countVerdict numberText ctx root operation
          collectionPath scalarPath expectedCount) ≠ .notApplicable := by
        intro hnone
        have hverdict : onFirst projections (fun root => countVerdict numberText ctx root operation
          collectionPath scalarPath expectedCount) = .violated := h
        rw [hnone] at hverdict
        contradiction
      exact if_neg hne
  | _ => rfl

end Evaluations

section Identity

variable (rt : Runtime) (sha256Hex : JsString → JsString)

def fingerprintValue (oracleId : JsString) (expectation : SemanticExpectation)
    (kind : InvariantKind) (relationId : Option JsString) : JsValue :=
  .obj [("oracleId".toList, .str oracleId),
    ("category".toList, .str (categoryName (categoryForInvariant kind relationId))),
    ("expectationId".toList, .str expectation.expectationId),
    ("expectedClass".toList, .str (expectedClassFor kind).toList),
    ("observedClass".toList, .str (observedClassFor expectation.expectationId kind)),
    ("relationId".toList, orNull relationId),
    ("sourceRepoId".toList, .str expectation.sourceProvenance.repoId),
    ("sourceSha".toList, .str expectation.sourceProvenance.sha),
    ("derivationVersion".toList, .str expectation.sourceProvenance.derivationVersion)]

theorem isJson_fingerprintValue (oracleId : JsString) (expectation : SemanticExpectation)
    (kind : InvariantKind) (relationId : Option JsString) :
    IsJson (fingerprintValue oracleId expectation kind relationId) := by
  have hrelation : IsJson (orNull relationId) := by
    cases relationId with
    | none => exact .scalar .null
    | some s => exact .scalar (.str s)
  refine .obj (by simp only [List.map_cons, List.map_nil]; decide)
    (by simp only [List.map_cons, List.map_nil]; decide) ?_
  simp only [List.map_cons, List.map_nil, List.forall_mem_cons, List.not_mem_nil, false_implies,
    implies_true, and_true]
  exact ⟨.scalar (.str _), .scalar (.str _), .scalar (.str _), .scalar (.str _), .scalar (.str _),
    hrelation, .scalar (.str _), .scalar (.str _), .scalar (.str _)⟩

theorem expectedClassFor_injective :
    Function.Injective fun kind => (expectedClassFor kind).toList := by
  intro kind kind' h
  revert h
  cases kind <;> cases kind' <;> decide

theorem orNull_injective : Function.Injective orNull := by
  intro s t h
  cases s <;> cases t <;> simp_all [orNull]

theorem fingerprintValue_eq_iff {oracleId : JsString} {expectation : SemanticExpectation}
    {kind kind' : InvariantKind} {relationId relationId' : Option JsString} :
    fingerprintValue oracleId expectation kind relationId =
        fingerprintValue oracleId expectation kind' relationId' ↔
      kind = kind' ∧ relationId = relationId' := by
  constructor
  · intro h
    simp only [fingerprintValue, JsValue.obj.injEq, List.cons.injEq, Prod.mk.injEq, true_and,
      JsValue.str.injEq] at h
    exact ⟨expectedClassFor_injective h.2.1, orNull_injective h.2.2.2.1⟩
  · rintro ⟨rfl, rfl⟩
    rfl

def fingerprintText (input : SemanticEvaluationInput) (kind : InvariantKind)
    (relationId : Option JsString) : JsString :=
  rt.jsonStringify (fingerprintValue input.oracleId input.expectation kind relationId)

def findingText (input : SemanticEvaluationInput) (digests : List JsString)
    (kind : InvariantKind) (relationId : Option JsString) : JsString :=
  digestId sha256Hex "fp" (fingerprintText rt input kind relationId) ++ join '|' digests

theorem findingId_eq (input : SemanticEvaluationInput) (digests : List JsString)
    (evaluation : InvariantEvaluation) :
    (findingOf rt sha256Hex input digests evaluation).findingId =
      digestId sha256Hex "finding" (findingText rt sha256Hex input digests
        evaluation.invariantKind evaluation.relationId) := rfl

def evaluationOf (input : SemanticEvaluationInput) (invariant : InvariantDefinition) :
    InvariantEvaluation :=
  evaluateInvariant (fun q => rt.numberText (.finite q)) input.ctx input.projections invariant

def violatedInvariants (input : SemanticEvaluationInput) : List InvariantDefinition :=
  input.expectation.invariantDefinitions.filter fun invariant =>
    (evaluationOf rt input invariant).verdict = .violated

/-- The digest does not collide on the texts that the findings of an evaluation hash. -/
def CollisionFree (input : SemanticEvaluationInput) (digests : List JsString) : Prop :=
  ∀ invariant ∈ violatedInvariants rt input, ∀ invariant' ∈ violatedInvariants rt input,
    TellsApart sha256Hex (fingerprintText rt input invariant.kind (relationIdOf invariant))
        (fingerprintText rt input invariant'.kind (relationIdOf invariant')) ∧
      TellsApart sha256Hex
        (findingText rt sha256Hex input digests invariant.kind (relationIdOf invariant))
        (findingText rt sha256Hex input digests invariant'.kind (relationIdOf invariant'))

instance (s t : JsString) : Decidable (TellsApart sha256Hex s t) :=
  inferInstanceAs (Decidable ((sha256Hex s).take 24 = (sha256Hex t).take 24 → s = t))

instance (input : SemanticEvaluationInput) (digests : List JsString) :
    Decidable (CollisionFree rt sha256Hex input digests) :=
  inferInstanceAs (Decidable (∀ invariant ∈ violatedInvariants rt input,
    ∀ invariant' ∈ violatedInvariants rt input, _ ∧ _))

variable {rt sha256Hex} {input : SemanticEvaluationInput} {digests : List JsString}

theorem jsonStringify_injective {v w : JsValue} (hv : IsJson v) (hw : IsJson w)
    (h : rt.jsonStringify v = rt.jsonStringify w) : v = w := by
  have hread := rt.jsonParse_stringify v hv
  rw [h, rt.jsonParse_stringify w hw] at hread
  exact (Option.some.inj hread).symm

variable {invariant : InvariantDefinition}

theorem reported_of_violated (h : invariant ∈ violatedInvariants rt input) :
    (evaluationOf rt input invariant).invariantKind = invariant.kind ∧
      (evaluationOf rt input invariant).relationId = relationIdOf invariant := by
  have hviolated : (evaluationOf rt input invariant).verdict = .violated :=
    of_decide_eq_true (List.mem_filter.mp h).2
  exact ⟨evaluateInvariant_kind .., evaluateInvariant_relation _ _ _ hviolated⟩

theorem finding_ids_eq_iff (hfree : CollisionFree rt sha256Hex input digests)
    {invariant' : InvariantDefinition} (h : invariant ∈ violatedInvariants rt input)
    (h' : invariant' ∈ violatedInvariants rt input) :
    (findingOf rt sha256Hex input digests (evaluationOf rt input invariant)).findingId =
        (findingOf rt sha256Hex input digests (evaluationOf rt input invariant')).findingId ↔
      invariant.kind = invariant'.kind ∧ relationIdOf invariant = relationIdOf invariant' := by
  obtain ⟨hfingerprint, hfinding⟩ := hfree invariant h invariant' h'
  obtain ⟨hkind, hrelation⟩ := reported_of_violated h
  obtain ⟨hkind', hrelation'⟩ := reported_of_violated h'
  rw [findingId_eq, findingId_eq, hkind, hkind', hrelation, hrelation', digestId_eq_iff hfinding,
    findingText, findingText, List.append_left_inj, digestId_eq_iff hfingerprint,
    ← fingerprintValue_eq_iff]
  constructor
  · exact jsonStringify_injective (isJson_fingerprintValue ..) (isJson_fingerprintValue ..)
  · intro heq
    rw [fingerprintText, fingerprintText, heq]

theorem findings_of_anomaly {result : SemanticEvaluationResult}
    (hresult : evaluateSemanticExpectation rt sha256Hex input = some result)
    (hanomaly : result.outcome = .anomaly) (hdigests : digestsOf rt sha256Hex input.projections =
      some digests) : result.findings = (violatedInvariants rt input).map fun invariant =>
      findingOf rt sha256Hex input digests (evaluationOf rt input invariant) := by
  rw [evaluateSemanticExpectation] at hresult
  split at hresult
  · obtain rfl := Option.some.inj hresult
    contradiction
  · obtain rfl := Option.some.inj hresult
    contradiction
  · simp only at hresult
    split at hresult
    · obtain rfl := Option.some.inj hresult
      contradiction
    split at hresult
    · obtain rfl := Option.some.inj hresult
      exact absurd hanomaly (HookTotality.quietOutcome_ne_anomaly _)
    · rw [hdigests] at hresult
      simp only [Option.bind_eq_bind, Option.bind_some, Option.bind_eq_some_iff] at hresult
      obtain ⟨findings, hfindings, hsome⟩ := hresult
      obtain rfl := Option.some.inj hsome
      rw [(checkedFindings_eq_some hfindings).1, List.filter_map, List.map_map]
      rfl

/-- The findings of two violated invariants share their id exactly when the invariants are
of one kind and name the same relation, if any. -/
theorem findings_share_id_iff (hfree : CollisionFree rt sha256Hex input digests)
    (hdigests : digestsOf rt sha256Hex input.projections = some digests)
    {result : SemanticEvaluationResult}
    (hresult : evaluateSemanticExpectation rt sha256Hex input = some result)
    (hanomaly : result.outcome = .anomaly) :
    result.findings = (violatedInvariants rt input).map (fun invariant =>
        findingOf rt sha256Hex input digests (evaluationOf rt input invariant)) ∧
      ∀ invariant ∈ violatedInvariants rt input, ∀ invariant' ∈ violatedInvariants rt input,
        ((findingOf rt sha256Hex input digests (evaluationOf rt input invariant)).findingId =
            (findingOf rt sha256Hex input digests (evaluationOf rt input invariant')).findingId ↔
          invariant.kind = invariant'.kind ∧ relationIdOf invariant = relationIdOf invariant') := by
  refine ⟨findings_of_anomaly hresult hanomaly hdigests, ?_⟩
  intro invariant hinvariant invariant' hinvariant'
  exact finding_ids_eq_iff hfree hinvariant hinvariant'

end Identity

def fieldsExpectation : SemanticExpectation where
  expectationId := "expectation".toList
  targetId := "target".toList
  sourceProvenance := {
    repoId := "repo".toList
    sha := List.replicate 40 'a'
    relativePath := "src/contract.ts".toList
    symbol := none
    derivationVersion := "v1".toList
    evidenceDigest := none }
  invariantDefinitions := [.fieldPresent ["id".toList] true, .fieldPresent ["name".toList] true,
    .fieldAbsent ["error".toList]]

def errorInput : SemanticEvaluationInput where
  oracleId := "oracle".toList
  expectation := fieldsExpectation
  projections := [objectOf [("error".toList, .null)]]
  ctx := .fresh ⟨8, 64, 128, 1024, 256, 512, 1000000⟩
  sourceSnapshot := some ⟨"repo".toList, List.replicate 40 'a'⟩
  journeyId := none
  stepId := none
  operationId := none

def markedHex (s : JsString) : JsString :=
  if includes s "FIELD_PRESENT".toList then List.replicate 24 '1'
  else if includes s (List.replicate 24 '1') then List.replicate 24 '2'
  else List.replicate 24 '0'

def sampleDigests : List JsString := ["proj:sha256:".toList ++ List.replicate 24 '0']

theorem fieldsExpectation_valid : ValidExpectation fieldsExpectation := by
  constructor
  · decide
  · decide
  · decide
  · exact List.cons_ne_nil _ _
  · decide
  · decide

theorem errorInput_collisionFree :
    CollisionFree plainRuntime markedHex errorInput sampleDigests := by decide +kernel

theorem digestsOf_errorInput :
    digestsOf plainRuntime markedHex errorInput.projections = some sampleDigests := by
  decide +kernel

theorem outcome_errorInput :
    (evaluateSemanticExpectation plainRuntime markedHex errorInput).map (·.outcome) =
      some .anomaly := by
  decide +kernel

theorem errorInput_evaluated :
    (evaluateSemanticExpectation plainRuntime markedHex errorInput).isSome = true := by
  rw [← Option.isSome_map, outcome_errorInput]
  rfl

def errorResult : SemanticEvaluationResult :=
  (evaluateSemanticExpectation plainRuntime markedHex errorInput).get errorInput_evaluated

theorem evaluate_errorInput :
    evaluateSemanticExpectation plainRuntime markedHex errorInput = some errorResult :=
  (Option.some_get errorInput_evaluated).symm

theorem errorResult_anomaly : errorResult.outcome = .anomaly := by
  have houtcome := outcome_errorInput
  rw [evaluate_errorInput, Option.map_some] at houtcome
  exact Option.some.inj houtcome

theorem findings_share_id_iff_error :
    errorResult.findings = (violatedInvariants plainRuntime errorInput).map (fun invariant =>
        findingOf plainRuntime markedHex errorInput sampleDigests
          (evaluationOf plainRuntime errorInput invariant)) ∧
      ∀ invariant ∈ violatedInvariants plainRuntime errorInput,
        ∀ invariant' ∈ violatedInvariants plainRuntime errorInput,
        ((findingOf plainRuntime markedHex errorInput sampleDigests
            (evaluationOf plainRuntime errorInput invariant)).findingId =
          (findingOf plainRuntime markedHex errorInput sampleDigests
            (evaluationOf plainRuntime errorInput invariant')).findingId ↔
          invariant.kind = invariant'.kind ∧ relationIdOf invariant = relationIdOf invariant') :=
  findings_share_id_iff errorInput_collisionFree digestsOf_errorInput evaluate_errorInput
    errorResult_anomaly

/-- Two missing fields are two violations, and their findings have one id. -/
theorem missing_fields_share_id : ValidExpectation errorInput.expectation ∧
      CollisionFree plainRuntime markedHex errorInput sampleDigests ∧
      evaluateSemanticExpectation plainRuntime markedHex errorInput = some errorResult ∧
      errorResult.outcome = .anomaly ∧ ∃ invariant ∈ violatedInvariants plainRuntime errorInput,
        ∃ invariant' ∈ violatedInvariants plainRuntime errorInput, invariant ≠ invariant' ∧
          (findingOf plainRuntime markedHex errorInput sampleDigests
              (evaluationOf plainRuntime errorInput invariant)).findingId =
            (findingOf plainRuntime markedHex errorInput sampleDigests
              (evaluationOf plainRuntime errorInput invariant')).findingId := by
  have hid : InvariantDefinition.fieldPresent ["id".toList] true ∈
      violatedInvariants plainRuntime errorInput := .head _
  have hname : InvariantDefinition.fieldPresent ["name".toList] true ∈
      violatedInvariants plainRuntime errorInput := .tail _ (.head _)
  refine ⟨fieldsExpectation_valid, errorInput_collisionFree, evaluate_errorInput,
    errorResult_anomaly, _, hid, _, hname, ?_, ?_⟩
  · intro heq
    have hpaths := (InvariantDefinition.fieldPresent.inj heq).1
    revert hpaths
    decide
  · exact (finding_ids_eq_iff errorInput_collisionFree hid hname).mpr ⟨rfl, rfl⟩

end NightWatch.Oracles.FindingIdentity
