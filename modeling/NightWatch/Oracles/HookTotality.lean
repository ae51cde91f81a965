import NightWatch.Oracles.Hook

namespace NightWatch.Oracles.HookTotality

open Lib.JsText Lib.JsData Lib.JsRuntime Lib.Json Lib.Guard Oracles.Projections Oracles.Invariants
  Oracles.Semantic Oracles.Expectations Oracles.Receipts Oracles.Hook

section Refusals

variable (numberText : ℚ → JsString)

/-- The numbers have no common scale of nine decimals on which they are safe integers. -/
def RefusesSum (operands : List JsNumber) : Prop :=
  maxScaleDecimals < maxPlaces numberText operands ∨
    scaledIntegers (10 ^ maxPlaces numberText operands) operands = none

theorem matchIf_ne_invalid (holds : Bool) : matchIf holds ≠ .invalidInput := by
  cases holds <;> simp [matchIf]

theorem evaluateSum_invalid {values : List ℚ} (hne : values ≠ []) :
    evaluateSum numberText (values.map .finite) = .invalidInput ↔
      RefusesSum numberText (values.map .finite) := by
  have hlength : ¬(values.map JsNumber.finite).length < 1 := by
    rw [List.length_map]
    have := List.length_pos_of_ne_nil hne
    omega
  have hfinite : ((values.map JsNumber.finite).any fun value => !value.isFinite) = false := by
    simp [JsNumber.isFinite]
  rw [evaluateSum, if_neg hlength, hfinite, if_neg Bool.false_ne_true, RefusesSum]
  by_cases hplaces : maxScaleDecimals < maxPlaces numberText (values.map .finite)
  · simp [hplaces]
  · rw [if_neg hplaces]
    cases scaledIntegers (10 ^ maxPlaces numberText (values.map .finite)) (values.map .finite) with
    | none => simp
    | some scaled => exact iff_of_false (matchIf_ne_invalid _) (by simp [hplaces])

theorem evaluateCount_invalid (gte : Bool) {count bound : JsNumber} :
    evaluateCount gte [count, bound] = .invalidInput ↔
      ¬(count.isSafeInteger = true ∧ bound.isInteger = true) := by
  rw [evaluateCount]
  cases hcount : count.isSafeInteger with
  | false => simp
  | true =>
      cases hbound : bound.isInteger with
      | false => cases bound.isFinite <;> simp
      | true =>
          have hfinite : bound.isFinite = true := by
            cases bound with
            | finite q => rfl
            | _ => contradiction
          simp only [hfinite, Bool.not_true, Bool.or_self, Bool.false_eq_true, if_false]
          exact iff_of_false (matchIf_ne_invalid _) (by simp)

/-- The invariant meets numbers that its relation refuses. -/
inductive RefusesInput (ctx : ProjectionContext) (projections : List ProjectionNode) :
    InvariantDefinition → Prop
  | sum {relationId : JsString} {collectionPath numericFieldPath scalarPath : SafePath}
      {root collection : ProjectionNode} {items : List ProjectionNode} {scalar : ℚ}
      {amounts : List ℚ} (hroot : projections[0]? = some root)
      (hcollection : arrayAt root collectionPath = some collection)
      (hitems : collection.items = some items) (htruncated : collection.arrayTruncated ≠ some true)
      (hscalar : numberValue ctx (resolvePath root scalarPath) = some scalar)
      (hamounts : ofEveryItem (fun item => numberValue ctx (resolvePath item numericFieldPath))
        items = some amounts)
      (hrefused : RefusesSum numberText ((amounts ++ [scalar]).map .finite)) :
      RefusesInput ctx projections
        (.numericSumRelation relationId collectionPath numericFieldPath scalarPath)
  | count {relationId : JsString} {operation : CountOperation} {collectionPath : SafePath}
      {scalarPath : Option SafePath} {expectedCount : Option JsNumber} {root : ProjectionNode}
      {itemCount : Nat} {bound : JsNumber} (hroot : projections[0]? = some root)
      (hcount : (arrayAt root collectionPath).bind ProjectionNode.itemCount = some itemCount)
      (hbound : countBound ctx root scalarPath expectedCount = some bound)
      (hrefused : ¬((JsNumber.ofNat itemCount).isSafeInteger = true ∧ bound.isInteger = true)) :
      RefusesInput ctx projections
        (.countRelation relationId operation collectionPath scalarPath expectedCount)
  | empty {relationId : JsString} {collectionPath countPath emptyMarkerPath : SafePath}
      {root : ProjectionNode} {itemCount : Nat} {count : ℚ} {observedEmpty : Bool}
      (hroot : projections[0]? = some root)
      (hitems : (arrayAt root collectionPath).bind ProjectionNode.itemCount = some itemCount)
      (hcount : numberValue ctx (resolvePath root countPath) = some count)
      (hmarker : resolvePath root emptyMarkerPath = some (.boolean (some observedEmpty)))
      (hrefused : count.den ≠ 1 ∨ count < 0) :
      RefusesInput ctx projections
        (.emptyStateConsistency relationId collectionPath countPath emptyMarkerPath)

end Refusals

section Verdicts

variable {numberText : ℚ → JsString} {ctx : ProjectionContext} {projections : List ProjectionNode}

theorem passIf_ne_invalid (holds : Bool) : passIf holds ≠ .invalidInput := by
  cases holds <;> simp [passIf]

variable {verdict : ProjectionNode → InvariantVerdict}

theorem onFirst_invalid : onFirst projections verdict = .invalidInput ↔
      ∃ root, projections[0]? = some root ∧ verdict root = .invalidInput := by
  rw [onFirst]
  cases projections[0]? with
  | none => simp
  | some root => simp

theorem onFirst_invalid_iff {P : Prop} (hroot : P → ∃ root, projections[0]? = some root)
    (h : ∀ root, projections[0]? = some root → (verdict root = .invalidInput ↔ P)) :
    onFirst projections verdict = .invalidInput ↔ P := by
  refine onFirst_invalid.trans ⟨?_, fun hP => ?_⟩
  · rintro ⟨root, hfirst, hinvalid⟩
    exact (h root hfirst).mp hinvalid
  · obtain ⟨root, hfirst⟩ := hroot hP
    exact ⟨root, hfirst, (h root hfirst).mpr hP⟩

theorem onFirst_ne_invalid
    (h : ∀ root, verdict root ≠ .invalidInput) : onFirst projections verdict ≠ .invalidInput := by
  rw [ne_eq, onFirst_invalid]
  rintro ⟨root, -, hroot⟩
  exact h root hroot

theorem onBoth_ne_invalid {verdict : ProjectionNode → ProjectionNode → InvariantVerdict}
    (h : ∀ left right, verdict left right ≠ .invalidInput) :
    onBoth projections verdict ≠ .invalidInput := by
  rw [onBoth]
  split
  · exact h _ _
  · decide

theorem fieldPresent_ne_invalid (path : SafePath) (expected : Bool)
    (root : Option ProjectionNode) : fieldPresentVerdict path expected root ≠ .invalidInput := by
  cases root with
  | none => simp [fieldPresentVerdict]
  | some root =>
      rw [fieldPresentVerdict]
      split
      · decide
      · exact passIf_ne_invalid _
      · exact passIf_ne_invalid _

theorem fieldAbsent_ne_invalid (path : SafePath) (root : Option ProjectionNode) :
    fieldAbsentVerdict path root ≠ .invalidInput := by
  cases root with
  | none => simp [fieldAbsentVerdict]
  | some root =>
      rw [fieldAbsentVerdict]
      split <;> decide

theorem type_ne_invalid (path : SafePath) (allowed : ProjectionNodeType → Bool)
    (root : Option ProjectionNode) : typeVerdict path allowed root ≠ .invalidInput := by
  cases root with
  | none => simp [typeVerdict]
  | some root =>
      rw [typeVerdict]
      split
      · exact passIf_ne_invalid _
      · decide
      · decide

theorem collection_ne_invalid (contract : CollectionItemContract) (root : ProjectionNode) :
    (evaluateCollection contract root).verdict ≠ .invalidInput := by
  simp only [evaluateCollection, evaluateItems]
  repeat' split
  all_goals simp [uncovered]

theorem membership_ne_invalid (list detail : ProjectionNode)
    (collectionPath itemIdentityPath detailIdentityPath : SafePath) :
    membershipVerdict list detail collectionPath itemIdentityPath detailIdentityPath ≠
      .invalidInput := by
  simp only [membershipVerdict]
  repeat' split
  all_goals first | exact passIf_ne_invalid _ | decide

theorem shapeChanged_ne_invalid (expectedTransition : TransitionExpectation)
    (statePath : Option SafePath) (before after : ProjectionNode) :
    shapeChangedVerdict expectedTransition statePath before after ≠ .invalidInput := by
  simp only [shapeChangedVerdict]
  repeat' split
  all_goals first | exact passIf_ne_invalid _ | decide

theorem relation_ne_invalid (left right : Option ProjectionNode) (expected : EqualityExpectation) :
    relationVerdict left right expected ≠ .invalidInput := by
  cases left with
  | none => simp [relationVerdict]
  | some left =>
      cases right with
      | none => simp [relationVerdict]
      | some right =>
          cases expected with
          | equal => exact passIf_ne_invalid _
          | notEqual => exact passIf_ne_invalid _

theorem uniqueness_ne_invalid (tokens : Option (List JsString)) :
    uniquenessVerdict tokens ≠ .invalidInput := by
  cases tokens with
  | none => simp [uniquenessVerdict]
  | some tokens => exact passIf_ne_invalid _

theorem window_ne_invalid (leftTokens rightTokens : Option (List JsString)) :
    windowVerdict leftTokens rightTokens ≠ .invalidInput := by
  cases leftTokens with
  | none => simp [windowVerdict]
  | some left =>
      cases rightTokens with
      | none => simp [windowVerdict]
      | some right => exact passIf_ne_invalid _

variable {root : ProjectionNode} {relationId : JsString} {collectionPath : SafePath}

theorem sum_invalid {numericFieldPath scalarPath : SafePath} (hroot : projections[0]? = some root) :
    sumVerdict numberText ctx root collectionPath numericFieldPath scalarPath = .invalidInput ↔
      RefusesInput numberText ctx projections
        (.numericSumRelation relationId collectionPath numericFieldPath scalarPath) := by
  constructor
  · intro h
    rw [sumVerdict] at h
    split at h
    · contradiction
    rename_i collection hcollection
    split at h
    · contradiction
    rename_i items hitems
    split at h
    · contradiction
    rename_i htruncated
    split at h
    · rename_i scalar amounts hscalar hamounts
      refine .sum hroot hcollection hitems htruncated hscalar hamounts ?_
      rw [← evaluateSum_invalid numberText (by simp)]
      rw [evaluateNumericRelation] at h
      split at h
      · contradiction
      · contradiction
      · assumption
      · contradiction
    · contradiction
  · intro h
    cases h with
    | sum hroot' hcollection hitems htruncated hscalar hamounts hrefused =>
        obtain rfl := Option.some.inj (hroot.symm.trans hroot')
        rw [← evaluateSum_invalid numberText (by simp)] at hrefused
        simp only [sumVerdict, hcollection, hitems, if_neg htruncated, hscalar, hamounts,
          evaluateNumericRelation, hrefused]

theorem count_invalid {operation : CountOperation} {scalarPath : Option SafePath}
    {expectedCount : Option JsNumber} (hroot : projections[0]? = some root) :
    countVerdict numberText ctx root operation collectionPath scalarPath expectedCount =
        .invalidInput ↔ RefusesInput numberText ctx projections
        (.countRelation relationId operation collectionPath scalarPath expectedCount) := by
  have hrelation (count bound : JsNumber) :
      (evaluateNumericRelation numberText operation.relation [count, bound] ≠ .isMatch ∧
        evaluateNumericRelation numberText operation.relation [count, bound] ≠ .mismatch) ↔
      ¬(count.isSafeInteger = true ∧ bound.isInteger = true) := by
    have hcount (gte : Bool) : evaluateCount gte [count, bound] ≠ .notApplicable := by
      simp only [evaluateCount, matchIf]
      repeat' split
      all_goals decide
    cases operation with
    | countEquals =>
        rw [← evaluateCount_invalid false]
        have hne := hcount false
        simp only [CountOperation.relation, evaluateNumericRelation]
        cases hresult : evaluateCount false [count, bound] with
        | notApplicable => exact absurd hresult hne
        | _ => simp
    | countGte =>
        rw [← evaluateCount_invalid true]
        have hne := hcount true
        simp only [CountOperation.relation, evaluateNumericRelation]
        cases hresult : evaluateCount true [count, bound] with
        | notApplicable => exact absurd hresult hne
        | _ => simp
  constructor
  · intro h
    rw [countVerdict] at h
    split at h
    · rename_i itemCount bound hcount hbound
      refine .count hroot hcount hbound ((hrelation _ _).mp ?_)
      constructor
      · intro hmatch
        simp [hmatch] at h
      · intro hmismatch
        simp [hmismatch] at h
    · contradiction
  · intro h
    cases h with
    | count hroot' hcount hbound hrefused =>
        obtain rfl := Option.some.inj (hroot.symm.trans hroot')
        obtain ⟨hmatch, hmismatch⟩ := (hrelation _ _).mpr hrefused
        simp only [countVerdict, hcount, hbound]

theorem empty_invalid {countPath emptyMarkerPath : SafePath} (hroot : projections[0]? = some root) :
    emptyStateVerdict ctx root collectionPath countPath emptyMarkerPath = .invalidInput ↔
      RefusesInput numberText ctx projections
        (.emptyStateConsistency relationId collectionPath countPath emptyMarkerPath) := by
  constructor
  · intro h
    rw [emptyStateVerdict] at h
    split at h
    · rename_i itemCount count observedEmpty hitems hcount hmarker
      split at h
      · rename_i hrefused
        exact .empty hroot hitems hcount hmarker (by simpa using hrefused)
      · exact absurd h (passIf_ne_invalid _)
    · contradiction
  · intro h
    cases h with
    | empty hroot' hitems hcount hmarker hrefused =>
        obtain rfl := Option.some.inj (hroot.symm.trans hroot')
        simp only [emptyStateVerdict, hitems, hcount, hmarker]
        exact if_pos (by simpa using hrefused)

theorem verdict_invalid_iff (invariant : InvariantDefinition) :
    (evaluateInvariant numberText ctx projections invariant).verdict = .invalidInput ↔
      RefusesInput numberText ctx projections invariant := by
  have hnever {verdict : InvariantVerdict} (hverdict : verdict ≠ .invalidInput)
      (hrefuses : ¬RefusesInput numberText ctx projections invariant) :
      verdict = .invalidInput ↔ RefusesInput numberText ctx projections invariant :=
    iff_of_false hverdict hrefuses
  cases invariant with
  | fieldPresent path expected =>
      exact hnever (fieldPresent_ne_invalid _ _ _) (by rintro ⟨⟩)
  | fieldAbsent path => exact hnever (fieldAbsent_ne_invalid _ _) (by rintro ⟨⟩)
  | typeMatch path expectedType =>
      exact hnever (type_ne_invalid path (· = expectedType) projections[0]?) (by rintro ⟨⟩)
  | typeInSet path allowedTypes =>
      exact hnever (type_ne_invalid path (· ∈ allowedTypes) projections[0]?) (by rintro ⟨⟩)
  | cardinalityMatch path min max exact =>
      refine hnever (onFirst_ne_invalid fun root => ?_) (by rintro ⟨⟩)
      split
      · exact passIf_ne_invalid _
      · decide
  | envelopeClass expected successField errorField =>
      refine hnever (onFirst_ne_invalid fun root => ?_) (by rintro ⟨⟩)
      rw [envelopeVerdict]
      split
      · decide
      · exact passIf_ne_invalid _
  | identityEqual leftPath rightPath =>
      refine hnever (onFirst_ne_invalid fun root => ?_) (by rintro ⟨⟩)
      split
      · exact passIf_ne_invalid _
      · decide
  | identityPresentInCollection collectionPath itemIdentityPath detailIdentityPath context =>
      exact hnever (onBoth_ne_invalid fun _ _ => membership_ne_invalid _ _ _ _ _) (by rintro ⟨⟩)
  | numericSumRelation relationId collectionPath numericFieldPath scalarPath =>
      refine onFirst_invalid_iff (fun h => ?_) fun _ => sum_invalid
      cases h with
      | sum hroot => exact ⟨_, hroot⟩
  | countRelation relationId operation collectionPath scalarPath expectedCount =>
      refine onFirst_invalid_iff (fun h => ?_) fun _ => count_invalid
      cases h with
      | count hroot => exact ⟨_, hroot⟩
  | shapeChanged expectedTransition statePath =>
      exact hnever (onBoth_ne_invalid fun _ _ => shapeChanged_ne_invalid _ _ _ _) (by rintro ⟨⟩)
  | collectionItemContract contract =>
      refine hnever ?_ (by rintro ⟨⟩)
      rw [evaluateInvariant]
      cases projections[0]? with
      | none => simp [uncovered]
      | some root => exact collection_ne_invalid contract root
  | identityUniqueness relationId collectionPath itemIdentityPath =>
      exact hnever (onFirst_ne_invalid fun _ => uniqueness_ne_invalid _) (by rintro ⟨⟩)
  | paginationWindow relationId leftCollectionPath rightCollectionPath itemIdentityPath =>
      exact hnever (onBoth_ne_invalid fun _ _ => window_ne_invalid _ _) (by rintro ⟨⟩)
  | emptyStateConsistency relationId collectionPath countPath emptyMarkerPath =>
      refine onFirst_invalid_iff (fun h => ?_) fun _ => empty_invalid
      cases h with
      | empty hroot => exact ⟨_, hroot⟩
  | stateRelation relationId beforePath afterPath expected =>
      exact hnever (onBoth_ne_invalid fun _ _ => relation_ne_invalid _ _ _) (by rintro ⟨⟩)
  | surfaceEquivalence relationId leftPath rightPath expected =>
      exact hnever (onBoth_ne_invalid fun _ _ => relation_ne_invalid _ _ _) (by rintro ⟨⟩)

end Verdicts

section Outcomes

variable {rt : Runtime} {sha256Hex : JsString → JsString}

def evaluationsOf (rt : Runtime) (input : SemanticEvaluationInput) : List InvariantEvaluation :=
  input.expectation.invariantDefinitions.map
    (evaluateInvariant (fun q => rt.numberText (.finite q)) input.ctx input.projections)

/-- The shapes of a result. -/
inductive Shaped (evaluations : List InvariantEvaluation) : SemanticEvaluationResult → Prop
  | outside {outcome : SemanticOutcome} (houtcome : outcome ≠ .anomaly)
      (hpartly : outcome ≠ .partialCoverage) : Shaped evaluations ⟨outcome, [], []⟩
  | invalid (hinvalid : ∃ e ∈ evaluations, e.verdict = .invalidInput) :
      Shaped evaluations ⟨.invalidInput, [], evaluations⟩
  | quiet (hvalid : ∀ e ∈ evaluations, e.verdict ≠ .invalidInput)
      (hquiet : ∀ e ∈ evaluations, e.verdict ≠ .violated) :
      Shaped evaluations ⟨quietOutcome evaluations, [], evaluations⟩
  | anomaly {findings : List SemanticOracleFinding}
      (hvalid : ∀ e ∈ evaluations, e.verdict ≠ .invalidInput) (hne : findings ≠ [])
      (hlength : findings.length ≤ evaluations.length)
      (hsafe : ∀ finding ∈ findings, isSemanticFinding finding = true) :
      Shaped evaluations ⟨.anomaly, findings, evaluations⟩

theorem checkedFindings_eq_some {findings checked : List SemanticOracleFinding}
    (h : checkedFindings findings = some checked) :
    checked = findings ∧ ∀ finding ∈ checked, isSemanticFinding finding = true := by
  induction findings generalizing checked with
  | nil =>
      obtain rfl := Option.some.inj h
      simp
  | cons finding rest ih =>
      simp only [checkedFindings, Option.bind_eq_bind, Option.bind_eq_some_iff,
        Option.pure_def, Option.some.injEq] at h
      obtain ⟨_, hguard, more, hmore, rfl⟩ := h
      have hfinding : isSemanticFinding finding = true := by
        by_contra hunsafe
        rw [guard, if_neg hunsafe] at hguard
        contradiction
      obtain ⟨rfl, hall⟩ := ih hmore
      exact ⟨rfl, List.forall_mem_cons.mpr ⟨hfinding, hall⟩⟩

variable {result : SemanticEvaluationResult}

theorem shaped_of_evaluate {input : SemanticEvaluationInput}
    (h : evaluateSemanticExpectation rt sha256Hex input = some result) :
    Shaped (evaluationsOf rt input) result := by
  rw [evaluateSemanticExpectation] at h
  split at h
  · obtain rfl := Option.some.inj h
    exact .outside (by decide) (by decide)
  · obtain rfl := Option.some.inj h
    exact .outside (by decide) (by decide)
  · simp only at h
    split at h
    · rename_i hinvalid
      obtain rfl := Option.some.inj h
      exact .invalid (by simpa [evaluationsOf] using hinvalid)
    · rename_i hvalid
      have hvalid' : ∀ e ∈ evaluationsOf rt input, e.verdict ≠ .invalidInput := by
        simpa [evaluationsOf] using hvalid
      split at h
      · rename_i hnone
        obtain rfl := Option.some.inj h
        exact .quiet hvalid' (by simpa [evaluationsOf, List.filter_eq_nil_iff] using hnone)
      · rename_i hsome
        simp only [Option.bind_eq_bind, Option.bind_eq_some_iff, Option.pure_def,
          Option.some.injEq] at h
        obtain ⟨digests, -, findings, hfindings, rfl⟩ := h
        obtain ⟨rfl, hsafe⟩ := checkedFindings_eq_some hfindings
        refine .anomaly hvalid' (by simpa using hsome) ?_ hsafe
        rw [List.length_map]
        exact List.length_filter_le ..

theorem invariantEvaluations_of_evaluate {input : SemanticEvaluationInput}
    (h : evaluateSemanticExpectation rt sha256Hex input = some result) :
    result.invariantEvaluations =
      if resolveExpectationFreshness input.expectation.sourceProvenance input.sourceSnapshot =
        .current then evaluationsOf rt input else [] := by
  rw [evaluateSemanticExpectation] at h
  split at h
  · rename_i hfreshness
    obtain rfl := Option.some.inj h
    simp [hfreshness]
  · rename_i hfreshness
    obtain rfl := Option.some.inj h
    simp [hfreshness]
  · rename_i hfreshness
    rw [if_pos hfreshness]
    simp only at h
    split at h
    · obtain rfl := Option.some.inj h
      rfl
    · split at h
      · obtain rfl := Option.some.inj h
        rfl
      · simp only [Option.bind_eq_bind, Option.bind_eq_some_iff, Option.pure_def,
          Option.some.injEq] at h
        obtain ⟨_, -, _, -, rfl⟩ := h
        rfl

theorem valid_of_evaluate_none {input : SemanticEvaluationInput}
    (h : evaluateSemanticExpectation rt sha256Hex input = none) :
    ∀ e ∈ evaluationsOf rt input, e.verdict ≠ .invalidInput := by
  rw [evaluateSemanticExpectation] at h
  split at h
  · contradiction
  · contradiction
  · simp only at h
    split at h
    · contradiction
    · rename_i hvalid
      simpa [evaluationsOf] using hvalid

theorem quietOutcome_ne_anomaly (evaluations : List InvariantEvaluation) :
    quietOutcome evaluations ≠ .anomaly := by
  rw [quietOutcome]
  split
  · decide
  · split <;> decide

end Outcomes

section EvaluationReceipts

variable {rt : Runtime} {sha256Hex : JsString → JsString}
  {input : SemanticResolutionEvaluationInput} {expectation : SemanticExpectation}
  {evaluation : SemanticEvaluationResult} {evaluations : List InvariantEvaluation}

/-- The ids of the input are absent or texts of 1 to 200 code units. -/
structure BoundedIds (input : SemanticResolutionEvaluationInput) : Prop where
  targetId : input.targetId.all isBoundedId = true
  journeyId : input.journeyId.all isBoundedId = true
  stepId : input.stepId.all isBoundedId = true
  operationId : input.operationId.all isBoundedId = true

theorem operation_bounded (hids : BoundedIds input) :
    (input.operationId.or input.targetId).all isBoundedId = true := by
  cases hoperation : input.operationId with
  | none => exact hids.targetId
  | some operationId =>
      rw [Option.some_or, ← hoperation]
      exact hids.operationId

theorem expectationId_bounded (hvalid : ValidExpectation expectation) :
    isBoundedId expectation.expectationId = true := by
  obtain ⟨hne, hlength⟩ := length_of_isPlainId hvalid.expectationId
  simp [isBoundedId, hne, hlength]

theorem oracleId_plain : isPlainId hookOracleId = true := by decide

theorem coverage_first (hall : ∀ e ∈ evaluations, Consistent e) :
    CoverageCounts ((coverageOf evaluations).bind InvariantEvaluation.coverageState)
      ((coverageOf evaluations).bind InvariantEvaluation.inspectedItemCount)
      ((coverageOf evaluations).bind InvariantEvaluation.violatingItemCount) := by
  cases hcoverage : coverageOf evaluations with
  | none => exact coverageCounts_none (by decide)
  | some e => exact (hall e (List.mem_of_find?_eq_some hcoverage)).counts

theorem coverage_partial (hall : ∀ e ∈ evaluations, Consistent e)
    (hquiet : ∀ e ∈ evaluations, e.verdict ≠ .violated) :
    CoverageCounts (some .partialCoverageNoViolation)
      ((coverageOf evaluations).bind InvariantEvaluation.inspectedItemCount)
      ((coverageOf evaluations).bind InvariantEvaluation.violatingItemCount) := by
  cases hcoverage : coverageOf evaluations with
  | none => exact coverageCounts_none (by decide)
  | some e =>
      have hmem := List.mem_of_find?_eq_some hcoverage
      constructor
      · exact (hall e hmem).counts.bounded
      · intro h
        contradiction
      · intro _
        exact (hall e hmem).quiet (hquiet e hmem)
      · intro h
        contradiction

theorem outcome_of_partly
    (hstate : (coverageOf evaluations).bind InvariantEvaluation.coverageState =
    some .partialCoverageNoViolation) : quietOutcome evaluations = .partialCoverage := by
  obtain ⟨e, he, hpartly⟩ := Option.bind_eq_some_iff.mp hstate
  have hany : evaluations.any (fun e => e.coverageState = some .partialCoverageNoViolation) = true :=
    List.any_eq_true.mpr ⟨e, List.mem_of_find?_eq_some he, by simpa using hpartly⟩
  rw [quietOutcome, hany, Bool.true_or, if_pos rfl]

variable {outcome : SemanticOutcome}

theorem receiptOutcome_pass
    (h : semanticOutcomeToReceiptOutcome outcome = .pass) : outcome = .pass := by
  cases outcome <;> first | rfl | contradiction

theorem receiptOutcome_partly (h : semanticOutcomeToReceiptOutcome outcome = .partialCoverage) :
    outcome = .partialCoverage := by
  cases outcome <;> first | rfl | contradiction

theorem receiptOutcome_anomaly :
    semanticOutcomeToReceiptOutcome outcome = .anomaly ↔ outcome = .anomaly := by
  cases outcome <;> decide

theorem receiptOutcome_ne_noExpectation (outcome : SemanticOutcome) :
    semanticOutcomeToReceiptOutcome outcome ≠ .noExpectation := by
  cases outcome <;> decide

theorem identified_evaluation (hhex : WritesHex sha256Hex) (hids : BoundedIds input)
    (hvalid : ValidExpectation expectation) (hshaped : Shaped evaluations evaluation) :
    Identified (receiptOf rt sha256Hex (evaluationReceipt input expectation evaluation)) where
  oracleId := oracleId_plain
  receiptId := isDigestId_digestId hhex ..
  targetId := hids.targetId
  expectationId := expectationId_bounded hvalid
  journeyId := hids.journeyId
  stepId := hids.stepId
  operationId := operation_bounded hids
  projectionDigests := by
    show (if evaluation.outcome = .anomaly then
      (evaluation.findings.head?.map SemanticOracleFinding.projectionDigests).getD []
      else []).all (isDigestId "proj") = true
    cases hshaped with
    | outside houtcome => rw [if_neg houtcome]; rfl
    | invalid => rfl
    | quiet => rw [if_neg (quietOutcome_ne_anomaly _)]; rfl
    | @anomaly findings _ _ _ hsafe =>
        rw [if_pos rfl]
        cases findings with
        | nil => rfl
        | cons finding rest =>
            have hfinding := hsafe finding (.head _)
            simp only [isSemanticFinding, Bool.and_eq_true] at hfinding
            exact hfinding.1.2

theorem violation_count (evaluations : List InvariantEvaluation) :
    (countsFor evaluations).violation = countOf .violated evaluations := by
  rw [countsFor_eq]

theorem counted_evaluation (hshaped : Shaped evaluations evaluation)
    (hlength : evaluations.length ≤ maxInvariantsPerExpectation)
    (hinvalid : ∀ e ∈ evaluation.invariantEvaluations, e.verdict ≠ .invalidInput) :
    Counted (receiptOf rt sha256Hex (evaluationReceipt input expectation evaluation)) := by
  have hbound : evaluation.invariantEvaluations.length ≤ maxInvariantsPerExpectation ∧
      evaluation.findings.length ≤ maxInvariantsPerExpectation := by
    cases hshaped with
    | outside => exact ⟨Nat.zero_le _, Nat.zero_le _⟩
    | invalid => exact ⟨hlength, Nat.zero_le _⟩
    | quiet => exact ⟨hlength, Nat.zero_le _⟩
    | anomaly _ _ hfindings => exact ⟨hlength, hfindings.trans hlength⟩
  have hsum := length_eq_counts evaluation.invariantEvaluations
  rw [countOf_eq_zero.mpr hinvalid, Nat.add_zero] at hsum
  constructor
  · have hsmall : maxInvariantsPerExpectation ≤ maxReceiptCount := by decide
    simp only [receiptCounts, receiptOf, draftOf, evaluationReceipt, countsFor_eq,
      List.forall_mem_cons]
    refine ⟨?_, ?_, ?_, ?_, ?_, by simp⟩ <;> omega
  · simp only [receiptOf, draftOf, evaluationReceipt, countsFor_eq]
    exact hsum.symm
  · intro houtcome
    have hne : evaluation.outcome ≠ .anomaly := mt receiptOutcome_anomaly.mpr houtcome
    have hviolated : ∀ e ∈ evaluation.invariantEvaluations, e.verdict ≠ .violated := by
      cases hshaped with
      | outside => simp
      | invalid hex =>
          obtain ⟨e, he, hverdict⟩ := hex
          exact absurd hverdict (hinvalid e he)
      | quiet _ hquiet => exact hquiet
      | anomaly => contradiction
    refine ⟨(violation_count _).trans (countOf_eq_zero.mpr hviolated), ?_⟩
    cases hshaped with
    | anomaly => contradiction
    | _ => rfl
  · intro houtcome
    have hanomaly := receiptOutcome_anomaly.mp houtcome
    cases hshaped with
    | outside hne => exact absurd hanomaly hne
    | invalid => contradiction
    | quiet => exact absurd hanomaly (quietOutcome_ne_anomaly _)
    | anomaly _ hne => exact fun hzero => hne (List.eq_nil_of_length_eq_zero hzero)
  · intro houtcome
    exact absurd houtcome (receiptOutcome_ne_noExpectation _)
  · intro h
    contradiction

theorem covered_evaluation (hshaped : Shaped evaluations evaluation)
    (hall : ∀ e ∈ evaluations, Consistent e)
    (hinvalid : ∀ e ∈ evaluation.invariantEvaluations, e.verdict ≠ .invalidInput) :
    Covered (receiptOf rt sha256Hex (evaluationReceipt input expectation evaluation)) := by
  have hconsistent : ∀ e ∈ evaluation.invariantEvaluations, Consistent e := by
    cases hshaped with
    | outside => simp
    | _ => exact hall
  have hquiet (hpartly : evaluation.outcome = .partialCoverage) :
      ∀ e ∈ evaluation.invariantEvaluations, e.verdict ≠ .violated := by
    cases hshaped with
    | outside => simp
    | invalid => contradiction
    | quiet _ hquiet => exact hquiet
    | anomaly => contradiction
  constructor
  · show CoverageCounts (if evaluation.outcome = .partialCoverage then _ else _) _ _
    by_cases hpartly : evaluation.outcome = .partialCoverage
    · rw [if_pos hpartly]
      exact coverage_partial hconsistent (hquiet hpartly)
    · rw [if_neg hpartly]
      exact coverage_first hconsistent
  · intro houtcome
    exact if_pos (receiptOutcome_partly houtcome)
  · intro hstate hpass
    have houtcome := receiptOutcome_pass hpass
    have hne : evaluation.outcome ≠ .partialCoverage := by
      rw [houtcome]
      decide
    have hpartly : (coverageOf evaluation.invariantEvaluations).bind
        InvariantEvaluation.coverageState = some .partialCoverageNoViolation :=
      (if_neg hne).symm.trans hstate
    cases hshaped with
    | outside => contradiction
    | invalid => contradiction
    | quiet => exact hne (outcome_of_partly hpartly)
    | anomaly => contradiction

theorem valid_of_accepted (h : validateSemanticEvaluationReceipt
      (receiptOf rt sha256Hex (evaluationReceipt input expectation evaluation)) = .ok ()) :
    ∀ e ∈ evaluation.invariantEvaluations, e.verdict ≠ .invalidInput := by
  have hsum := countSum_of_accepted h
  simp only [receiptOf, draftOf, evaluationReceipt, countsFor_eq] at hsum
  have hlength := length_eq_counts evaluation.invariantEvaluations
  exact countOf_eq_zero.mp (by omega)

variable (rt) in
theorem evaluationReceipt_accepted_iff (hhex : WritesHex sha256Hex) (hids : BoundedIds input)
    (hvalid : ValidExpectation expectation) (hshaped : Shaped evaluations evaluation)
    (hlength : evaluations.length ≤ maxInvariantsPerExpectation)
    (hall : ∀ e ∈ evaluations, Consistent e) : validateSemanticEvaluationReceipt
        (receiptOf rt sha256Hex (evaluationReceipt input expectation evaluation)) = .ok () ↔
      ∀ e ∈ evaluation.invariantEvaluations, e.verdict ≠ .invalidInput := by
  constructor
  · exact valid_of_accepted
  · intro hinvalid
    exact validate_of_sound rfl (identified_evaluation hhex hids hvalid hshaped)
      (counted_evaluation hshaped hlength hinvalid) (covered_evaluation hshaped hall hinvalid)

end EvaluationReceipts

section Totality

variable (rt : Runtime) (sha256Hex : JsString → JsString)
  (input : SemanticResolutionEvaluationInput)

def outcomeOf : SemanticReceiptOutcome :=
  match input.resolution with
  | .noExpectation => .noExpectation
  | .sourceUnavailable _ => .expectationSourceUnavailable
  | .sourceStale _ => .expectationSourceStale
  | .resolved expectation sourceSnapshot =>
      match rt.jsonParse input.rawText with
      | none => .invalidInput
      | some rawValue =>
          match responseEvaluation rt sha256Hex input expectation sourceSnapshot rawValue with
          | none => .internalError
          | some evaluation => semanticOutcomeToReceiptOutcome evaluation.outcome

/-- The hook returns an accepted receipt with the outcome of the evaluation, and findings
for an anomaly only. -/
def HookIsTotal : Prop :=
  ∃ result, evaluateSemanticResolution rt sha256Hex input = .ok result ∧
    validateSemanticEvaluationReceipt result.receipt = .ok () ∧
    result.receipt.outcome = outcomeOf rt sha256Hex input ∧
    (result.findings ≠ [] → result.receipt.outcome = .anomaly)

/-- No invariant of a resolved, current expectation meets numbers of the response that its
relation refuses. -/
def NoRefusal : Prop :=
  ∀ expectation sourceSnapshot rawValue projected ctx,
    input.resolution = .resolved expectation sourceSnapshot →
    rt.jsonParse input.rawText = some rawValue →
    projectValue defaultProjectionLimits rawValue (.fresh defaultProjectionLimits) =
      .ok (projected, ctx) →
    resolveExpectationFreshness expectation.sourceProvenance (some sourceSnapshot) = .current →
    ∀ invariant ∈ expectation.invariantDefinitions,
      ¬RefusesInput (fun q => rt.numberText (.finite q)) ctx [projected.root] invariant

def RealSourceResolution.expectationOf : RealSourceResolution → Option SemanticExpectation
  | .resolved expectation _ | .sourceUnavailable expectation | .sourceStale expectation =>
      some expectation
  | .noExpectation => none

variable {rt} {sha256Hex} {input} {receipt : SemanticReceiptInput}
  {findings : List SemanticOracleFinding} {privacyViolation : Bool} {result : SemanticHookResult}
  {sourceSnapshot : SourceSnapshot} {rawValue : JsValue}

theorem hookResult_of_accepted
    (h : validateSemanticEvaluationReceipt (receiptOf rt sha256Hex receipt) = .ok ()) :
    hookResult rt sha256Hex receipt findings privacyViolation =
      .ok ⟨receiptOf rt sha256Hex receipt, findings, privacyViolation⟩ := by
  rw [hookResult, bind_eq_ok]
  exact ⟨_, build_eq_ok.mpr ⟨h, rfl⟩, rfl⟩

theorem accepted_of_hookResult
    (h : hookResult rt sha256Hex receipt findings privacyViolation = .ok result) :
    validateSemanticEvaluationReceipt (receiptOf rt sha256Hex receipt) = .ok () := by
  rw [hookResult, bind_eq_ok] at h
  obtain ⟨built, hbuilt, -⟩ := h
  exact (build_eq_ok.mp hbuilt).1

theorem countless_accepted (hidentified : Identified (receiptOf rt sha256Hex receipt))
    (hcounts : receiptCounts (receiptOf rt sha256Hex receipt) = [0, 0, 0, 0, 0])
    (hcoverage : receipt.coverageState = none ∧ receipt.inspectedItemCount = none ∧
      receipt.violatingItemCount = none)
    (houtcome : receipt.outcome ≠ .anomaly ∧ receipt.outcome ≠ .partialCoverage)
    (hunexpected : receipt.outcome = .noExpectation → receipt.expectationId = none)
    (hprovenance : receipt.expectationId = none → receipt.sourceProvenance = none) :
    validateSemanticEvaluationReceipt (receiptOf rt sha256Hex receipt) = .ok () := by
  obtain ⟨hstate, hinspected, hviolating⟩ := hcoverage
  simp only [receiptCounts, List.cons.injEq, and_true] at hcounts
  obtain ⟨htotal, hpass, hna, hviolation, hfinding⟩ := hcounts
  refine validate_of_sound rfl hidentified ⟨?_, ?_, ?_, ?_, hunexpected, hprovenance⟩ ⟨?_, ?_, ?_⟩
  · simp [receiptCounts, htotal, hpass, hna, hviolation, hfinding]
  · rw [htotal, hpass, hna, hviolation]
  · exact fun _ => ⟨hviolation, hfinding⟩
  · exact fun hanomaly => absurd hanomaly houtcome.1
  · show CoverageCounts receipt.coverageState receipt.inspectedItemCount receipt.violatingItemCount
    rw [hstate, hinspected, hviolating]
    exact coverageCounts_none (by decide)
  · exact fun hpartly => absurd hpartly houtcome.2
  · intro hpartly
    have hnone : receipt.coverageState = some .partialCoverageNoViolation := hpartly
    rw [hstate] at hnone
    contradiction

variable (hhex : WritesHex sha256Hex) (hids : BoundedIds input)

include hhex hids

variable (rt) in
theorem base_accepted (outcome : SemanticReceiptOutcome)
    (houtcome : outcome ≠ .anomaly ∧ outcome ≠ .partialCoverage) :
    validateSemanticEvaluationReceipt (receiptOf rt sha256Hex (baseReceipt input outcome)) =
      .ok () := by
  refine countless_accepted ?_ rfl ⟨rfl, rfl, rfl⟩ houtcome (fun _ => rfl) fun _ => rfl
  exact ⟨oracleId_plain, isDigestId_digestId hhex .., hids.targetId, rfl, hids.journeyId,
    hids.stepId, operation_bounded hids, rfl⟩

variable (rt) in
theorem expectation_accepted (outcome : SemanticReceiptOutcome) {expectation : SemanticExpectation}
    (hvalid : ValidExpectation expectation)
    (houtcome : outcome ≠ .anomaly ∧ outcome ≠ .partialCoverage) (hne : outcome ≠ .noExpectation) :
    validateSemanticEvaluationReceipt
      (receiptOf rt sha256Hex (expectationReceipt input outcome expectation)) = .ok () := by
  refine countless_accepted ?_ rfl ⟨rfl, rfl, rfl⟩ houtcome (fun h => absurd h hne) ?_
  · exact ⟨oracleId_plain, isDigestId_digestId hhex .., hids.targetId,
      expectationId_bounded hvalid, hids.journeyId, hids.stepId, operation_bounded hids, rfl⟩
  · intro h
    contradiction

variable (rt) in
theorem internalError_accepted {expectation : SemanticExpectation}
    (hvalid : ValidExpectation expectation) : validateSemanticEvaluationReceipt
      (receiptOf rt sha256Hex (internalErrorReceipt input expectation)) = .ok () := by
  refine countless_accepted ?_ rfl ⟨rfl, rfl, rfl⟩ ⟨?_, ?_⟩ ?_ fun _ => rfl
  · exact ⟨oracleId_plain, isDigestId_digestId hhex .., hids.targetId,
      expectationId_bounded hvalid, hids.journeyId, hids.stepId, operation_bounded hids, rfl⟩
  · intro h
    contradiction
  · intro h
    contradiction
  · intro h
    contradiction

omit hhex hids

theorem refusals_iff (expectation : SemanticExpectation) (ctx : ProjectionContext)
    (projections : List ProjectionNode) : (∀ invariant ∈ expectation.invariantDefinitions,
      ¬RefusesInput (fun q => rt.numberText (.finite q)) ctx projections invariant) ↔
    ∀ e ∈ expectation.invariantDefinitions.map (evaluateInvariant
      (fun q => rt.numberText (.finite q)) ctx projections), e.verdict ≠ .invalidInput := by
  rw [List.forall_mem_map]
  simp only [ne_eq, verdict_invalid_iff]

theorem response_shaped {expectation : SemanticExpectation} {evaluation : SemanticEvaluationResult}
    (h : responseEvaluation rt sha256Hex input expectation sourceSnapshot rawValue =
      some evaluation) : ∃ evaluations, Shaped evaluations evaluation ∧
      evaluations.length ≤ expectation.invariantDefinitions.length ∧
      (∀ e ∈ evaluations, Consistent e) ∧
      ((∀ e ∈ evaluation.invariantEvaluations, e.verdict ≠ .invalidInput) ↔
        ∀ projected ctx, projectValue defaultProjectionLimits rawValue
            (.fresh defaultProjectionLimits) = .ok (projected, ctx) →
          resolveExpectationFreshness expectation.sourceProvenance (some sourceSnapshot) =
            .current → ∀ invariant ∈ expectation.invariantDefinitions,
            ¬RefusesInput (fun q => rt.numberText (.finite q)) ctx [projected.root] invariant) := by
  rw [responseEvaluation, evaluateSemanticResponse] at h
  simp only [projectAll] at h
  cases hproject : projectValue defaultProjectionLimits rawValue
      (.fresh defaultProjectionLimits) with
  | error e =>
      rw [hproject] at h
      cases e with
      | limitExceeded detail =>
          obtain rfl := Option.some.inj h
          exact ⟨[], .outside (by decide) (by decide), Nat.zero_le _, by simp, by simp⟩
      | unsupportedInput detail =>
          obtain rfl := Option.some.inj h
          exact ⟨[], .outside (by decide) (by decide), Nat.zero_le _, by simp, by simp⟩
  | ok projection =>
      obtain ⟨projected, ctx⟩ := projection
      rw [hproject] at h
      refine ⟨_, shaped_of_evaluate h, ?_, ?_, ?_⟩
      · rw [evaluationsOf, List.length_map]
      · intro e he
        obtain ⟨invariant, -, rfl⟩ := List.mem_map.mp he
        exact consistent_evaluateInvariant ..
      · rw [invariantEvaluations_of_evaluate h]
        constructor
        · intro hverdicts projected' ctx' hsame hcurrent
          obtain ⟨rfl, rfl⟩ := Prod.mk.inj (Except.ok.inj hsame)
          rw [if_pos hcurrent] at hverdicts
          exact (refusals_iff _ _ _).mpr hverdicts
        · intro hnone
          by_cases hcurrent : resolveExpectationFreshness expectation.sourceProvenance
              (some sourceSnapshot) = .current
          · rw [if_pos hcurrent]
            exact (refusals_iff _ _ _).mp (hnone projected ctx rfl hcurrent)
          · rw [if_neg hcurrent]
            simp

theorem response_none {expectation : SemanticExpectation} {projected : ProjectObservationResult}
    {ctx : ProjectionContext}
    (h : responseEvaluation rt sha256Hex input expectation sourceSnapshot rawValue = none)
    (hproject : projectValue defaultProjectionLimits rawValue (.fresh defaultProjectionLimits) =
      .ok (projected, ctx)) : ∀ invariant ∈ expectation.invariantDefinitions,
      ¬RefusesInput (fun q => rt.numberText (.finite q)) ctx [projected.root] invariant := by
  rw [responseEvaluation, evaluateSemanticResponse] at h
  simp only [projectAll, hproject] at h
  exact (refusals_iff _ _ _).mpr (valid_of_evaluate_none h)

theorem no_refusal_of_result
    (h : evaluateSemanticResolution rt sha256Hex input = .ok result) : NoRefusal rt input := by
  intro expectation sourceSnapshot rawValue projected ctx hresolution hparse hproject hcurrent
  rw [evaluateSemanticResolution, hresolution] at h
  simp only [hparse] at h
  cases hevaluation : responseEvaluation rt sha256Hex input expectation sourceSnapshot rawValue with
  | none => exact response_none hevaluation hproject
  | some evaluation =>
      rw [hevaluation] at h
      obtain ⟨_, -, -, -, hverdicts⟩ := response_shaped hevaluation
      exact hverdicts.mp (valid_of_accepted (accepted_of_hookResult h)) projected ctx hproject
        hcurrent

/-- The hook is total exactly when no numeric relation of a current expectation refuses the
numbers of the response. -/
theorem hook_is_total_iff (hhex : WritesHex sha256Hex) (hids : BoundedIds input)
    (hvalid : ∀ expectation, RealSourceResolution.expectationOf input.resolution =
      some expectation → ValidExpectation expectation) :
    HookIsTotal rt sha256Hex input ↔ NoRefusal rt input := by
  constructor
  · rintro ⟨result, hresult, -⟩
    exact no_refusal_of_result hresult
  intro h
  rw [HookIsTotal, evaluateSemanticResolution, outcomeOf]
  cases hresolution : input.resolution with
  | noExpectation =>
      have haccepted := base_accepted rt hhex hids .noExpectation
        ⟨by decide, by decide⟩
      exact ⟨_, hookResult_of_accepted haccepted, haccepted, rfl, by simp⟩
  | sourceUnavailable expectation =>
      have haccepted := expectation_accepted rt hhex hids .expectationSourceUnavailable
        (hvalid expectation (by rw [hresolution]; rfl))
        ⟨by decide, by decide⟩ (by decide)
      exact ⟨_, hookResult_of_accepted haccepted, haccepted, rfl, by simp⟩
  | sourceStale expectation =>
      have haccepted := expectation_accepted rt hhex hids .expectationSourceStale
        (hvalid expectation (by rw [hresolution]; rfl))
        ⟨by decide, by decide⟩ (by decide)
      exact ⟨_, hookResult_of_accepted haccepted, haccepted, rfl, by simp⟩
  | resolved expectation sourceSnapshot =>
      have hexpectation := hvalid expectation (by rw [hresolution]; rfl)
      cases hparse : rt.jsonParse input.rawText with
      | none =>
          have haccepted := expectation_accepted rt hhex hids .invalidInput hexpectation
            ⟨by decide, by decide⟩ (by decide)
          exact ⟨_, hookResult_of_accepted haccepted, haccepted, rfl, by simp⟩
      | some rawValue =>
          simp only
          cases hevaluation : responseEvaluation rt sha256Hex input expectation sourceSnapshot
              rawValue with
          | none =>
              have haccepted := internalError_accepted rt hhex hids hexpectation
              exact ⟨_, hookResult_of_accepted haccepted, haccepted, rfl, by simp⟩
          | some evaluation =>
              obtain ⟨evaluations, hshaped, hlength, hall, hverdicts⟩ := response_shaped hevaluation
              have hvalidate := (evaluationReceipt_accepted_iff rt hhex hids hexpectation
                hshaped (hlength.trans hexpectation.bounded) hall).mpr
                (hverdicts.mpr fun projected ctx hproject hcurrent =>
                  h expectation sourceSnapshot rawValue projected ctx hresolution hparse hproject
                    hcurrent)
              refine ⟨_, hookResult_of_accepted hvalidate, hvalidate, rfl, ?_⟩
              intro hfindings
              by_contra hne
              apply hfindings
              exact if_neg (mt receiptOutcome_anomaly.mpr hne)

def relationProvenance : SourceProvenance :=
  ⟨"web".toList, List.replicate 40 'a', "src/rows.ts".toList, none, "v1".toList, none⟩

def relationExpectation : SemanticExpectation :=
  ⟨"rows".toList, "list-rows".toList, relationProvenance,
    [.emptyStateConsistency "rows-total".toList ["rows".toList] ["total".toList]
      ["empty".toList]]⟩

theorem relationExpectation_valid : ValidExpectation relationExpectation :=
  ⟨by decide, by decide, by decide, by decide, by decide, by decide⟩

def rowsResponse (total : ℚ) (empty : Bool) : JsValue :=
  .obj [("rows".toList, .arr []), ("total".toList, .num (.finite total)),
    ("empty".toList, .bool empty)]

def relationInput (response : JsValue) : SemanticResolutionEvaluationInput where
  resolution := .resolved relationExpectation ⟨"web".toList, List.replicate 40 'a'⟩
  rawText := plainRuntime.jsonStringify response
  targetId := some "list-rows".toList
  acceptanceClass := none
  journeyId := none
  stepId := none
  operationId := none

theorem relationInput_bounded (response : JsValue) : BoundedIds (relationInput response) where
  targetId := by
    show isBoundedId "list-rows".toList = true
    decide
  journeyId := rfl
  stepId := rfl
  operationId := rfl

def zeroDigest (_ : JsString) : JsString := List.replicate 64 '0'

theorem zeroDigest_hex : WritesHex zeroDigest := by
  intro s
  show 24 ≤ (List.replicate 64 '0').length ∧ (List.replicate 64 '0').all isHexDigit = true
  decide

theorem empty_rows_total_iff :
    HookIsTotal plainRuntime zeroDigest (relationInput (rowsResponse 0 true)) ↔
      NoRefusal plainRuntime (relationInput (rowsResponse 0 true)) :=
  hook_is_total_iff zeroDigest_hex (relationInput_bounded _) fun expectation h => by
    obtain rfl := Option.some.inj h
    exact relationExpectation_valid

def negativeRoot : ProjectionNode :=
  objectOf [("empty".toList, .boolean (some false)), ("rows".toList, arrayOf 0 []),
    ("total".toList, .number (some "numeric#0001".toList))]

def negativeContext : ProjectionContext :=
  ⟨defaultProjectionLimits, [], [(-1, "numeric#0001".toList)], 0, 1⟩

theorem negative_projected : projectValue defaultProjectionLimits (rowsResponse (-1) false)
    (.fresh defaultProjectionLimits) = .ok (⟨negativeRoot, 4⟩, negativeContext) := rfl

theorem negative_isJson : IsJson (rowsResponse (-1) false) := by
  refine .obj (by decide) (by decide) ?_
  intro v hv
  simp only [List.map_cons, List.map_nil, List.mem_cons, List.not_mem_nil, or_false] at hv
  rcases hv with rfl | rfl | rfl
  · exact .arr (by simp)
  · exact .scalar (.num (-1) (by decide))
  · exact .scalar (.bool false)

/-- A response that counts minus one row is left without a receipt. -/
theorem negative_count_throws :
    ¬HookIsTotal plainRuntime zeroDigest (relationInput (rowsResponse (-1) false)) := by
  rintro ⟨result, hresult, -⟩
  refine no_refusal_of_result hresult relationExpectation _ _ _ negativeContext rfl
    (plainRuntime.jsonParse_stringify _ negative_isJson) negative_projected (by decide) _
    (.head _) ?_
  exact .empty rfl rfl rfl rfl
    (.inr (by norm_num))

end Totality

end NightWatch.Oracles.HookTotality
