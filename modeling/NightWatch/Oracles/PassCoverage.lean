import NightWatch.Oracles.Semantic

namespace NightWatch.Oracles.PassCoverage

open Lib.JsText Lib.JsRuntime Oracles.Projections Oracles.Invariants Oracles.Semantic

def undecided (contract : CollectionItemContract) (item : ProjectionNode) : Bool :=
  match resolvePathWithAmbiguity item contract.itemRelativePath, contract.itemInvariant with
  | .ambiguous, _ => true
  | .missing, .typeMatch _ | .missing, .typeInSet _ => true
  | _, _ => false

def contradicts (contract : CollectionItemContract) (item : ProjectionNode) : Bool :=
  match resolvePathWithAmbiguity item contract.itemRelativePath, contract.itemInvariant with
  | .found _, .fieldPresent expected => !expected
  | .missing, .fieldPresent expected => expected
  | .found _, .fieldAbsent => true
  | .found node, .typeMatch expectedType => node.type ≠ expectedType
  | .found node, .typeInSet allowedTypes => node.type ∉ allowedTypes
  | _, _ => false

theorem itemVerdict_cases (contract : CollectionItemContract) (item : ProjectionNode) :
    itemVerdict contract item =
      if undecided contract item then .notApplicable
      else if contradicts contract item then .violated
      else .pass := by
  rw [itemVerdict, undecided, contradicts]
  cases contract.itemInvariant with
  | fieldPresent expected =>
      simp only [fieldPresentVerdict]
      cases resolvePathWithAmbiguity item contract.itemRelativePath with
      | found node => cases expected <;> rfl
      | missing => cases expected <;> rfl
      | ambiguous => rfl
  | fieldAbsent =>
      simp only [fieldAbsentVerdict]
      cases resolvePathWithAmbiguity item contract.itemRelativePath with
      | found node => rfl
      | missing => rfl
      | ambiguous => rfl
  | typeMatch expectedType =>
      simp only [typeVerdict, passIf]
      cases resolvePathWithAmbiguity item contract.itemRelativePath with
      | found node => by_cases h : node.type = expectedType <;> simp [h]
      | missing => rfl
      | ambiguous => rfl
  | typeInSet allowedTypes =>
      simp only [typeVerdict, passIf]
      cases resolvePathWithAmbiguity item contract.itemRelativePath with
      | found node => by_cases h : node.type ∈ allowedTypes <;> simp [h]
      | missing => rfl
      | ambiguous => rfl

variable {contract : CollectionItemContract} {item : ProjectionNode}

theorem not_contradicts_of_undecided
    (h : undecided contract item = true) : contradicts contract item = false := by
  rw [undecided] at h
  rw [contradicts]
  cases hpath : resolvePathWithAmbiguity item contract.itemRelativePath with
  | found node =>
      rw [hpath] at h
      cases hkind : contract.itemInvariant <;> rw [hkind] at h <;> contradiction
  | missing =>
      rw [hpath] at h
      cases hkind : contract.itemInvariant with
      | fieldPresent expected => rw [hkind] at h; contradiction
      | fieldAbsent => rfl
      | typeMatch expectedType => rfl
      | typeInSet allowedTypes => rfl
  | ambiguous => rfl

theorem itemVerdict_eq_violated :
    itemVerdict contract item = .violated ↔ contradicts contract item = true := by
  rw [itemVerdict_cases]
  by_cases hundecided : undecided contract item = true
  · rw [if_pos hundecided, not_contradicts_of_undecided hundecided]
    decide
  · rw [if_neg hundecided]
    by_cases hcontradicts : contradicts contract item = true
    · simp [hcontradicts]
    · simp [hcontradicts]

theorem itemVerdict_eq_pass : itemVerdict contract item = .pass ↔
      undecided contract item = false ∧ contradicts contract item = false := by
  rw [itemVerdict_cases]
  by_cases hundecided : undecided contract item = true
  · simp [hundecided]
  · rw [if_neg hundecided]
    by_cases hcontradicts : contradicts contract item = true
    · simp [hcontradicts]
    · simp [hcontradicts, hundecided]

section Collections

variable (numberText : ℚ → JsString) (ctx : ProjectionContext)

def InspectedCollection (contract : CollectionItemContract) (projections items : List ProjectionNode) :
    Prop :=
  ∃ root collection, projections[0]? = some root ∧
    arrayAt root contract.collectionPath = some collection ∧ collection.itemCount ≠ some 0 ∧
    collection.items = some items ∧ items ≠ [] ∧ collection.arrayTruncated ≠ some true

/-- The collection is not empty and not truncated, and every item passes. -/
def FullyPasses (contract : CollectionItemContract) (projections : List ProjectionNode) : Prop :=
  ∃ items, InspectedCollection contract projections items ∧ ∀ item ∈ items,
    (evaluateInvariant numberText ctx [item] (buildItemInvariant contract)).verdict = .pass

/-- No completely inspected collection has an undecided item but no contradicting one. -/
def Decided (contract : CollectionItemContract) (projections : List ProjectionNode) : Prop :=
  ∀ items, InspectedCollection contract projections items →
    (∃ item ∈ items, undecided contract item = true) →
    ∃ item ∈ items, contradicts contract item = true

variable {contract : CollectionItemContract} {items : List ProjectionNode}

theorem inspectedCollection_unique {projections items' : List ProjectionNode}
    (h : InspectedCollection contract projections items)
    (h' : InspectedCollection contract projections items') : items = items' := by
  obtain ⟨root, collection, hroot, hcollection, -, hitems, -, -⟩ := h
  obtain ⟨root', collection', hroot', hcollection', -, hitems', -, -⟩ := h'
  obtain rfl : root = root' := Option.some.inj (hroot.symm.trans hroot')
  obtain rfl : collection = collection' := Option.some.inj (hcollection.symm.trans hcollection')
  exact Option.some.inj (hitems.symm.trans hitems')

theorem violatingItems_pos :
    0 < violatingItems contract items ↔ ∃ item ∈ items, contradicts contract item = true := by
  rw [violatingItems, List.countP_pos_iff]
  simp only [decide_eq_true_eq, itemVerdict_eq_violated]

@[simp] theorem coverageState_uncovered : uncovered.coverageState = some .emptyNotApplicable := rfl

@[simp] theorem verdict_uncovered : uncovered.verdict = .notApplicable := rfl

variable {truncated : Bool}

theorem evaluateItems_full :
    (evaluateItems contract truncated items).coverageState = some .fullyEvaluatedPass ↔
      truncated = false ∧ ∀ item ∈ items, contradicts contract item = false := by
  have hnone : (∀ item ∈ items, contradicts contract item = false) ↔
      ¬0 < violatingItems contract items := by
    rw [violatingItems_pos]
    simp
  rw [hnone, evaluateItems]
  by_cases hviolating : 0 < violatingItems contract items
  · simp [hviolating]
  · cases truncated with
    | true => simp [hviolating]
    | false => simp [hviolating]

theorem evaluateItems_pass (h : (evaluateItems contract truncated items).verdict = .pass) :
    (evaluateItems contract truncated items).coverageState = some .partialCoverageNoViolation ∨
      (evaluateItems contract truncated items).coverageState = some .fullyEvaluatedPass := by
  rw [evaluateItems] at h ⊢
  by_cases hviolating : 0 < violatingItems contract items
  · simp [hviolating] at h
  · cases truncated with
    | true => simp [hviolating]
    | false => simp [hviolating]

theorem evaluateCollection_cases (contract : CollectionItemContract)
    (projections : List ProjectionNode) :
    evaluateInvariant numberText ctx projections (.collectionItemContract contract) = uncovered ∧
        (∀ items, ¬InspectedCollection contract projections items) ∨
      ∃ truncated items, evaluateInvariant numberText ctx projections
          (.collectionItemContract contract) = evaluateItems contract truncated items ∧
        ∀ items', InspectedCollection contract projections items' ↔
          truncated = false ∧ items' = items := by
  rw [evaluateInvariant]
  cases hroot : projections[0]? with
  | none =>
      refine .inl ⟨rfl, ?_⟩
      rintro items ⟨root, _, hroot', -⟩
      rw [hroot] at hroot'
      contradiction
  | some root =>
      simp only [evaluateCollection]
      cases hcollection : arrayAt root contract.collectionPath with
      | none =>
          refine .inl ⟨rfl, ?_⟩
          rintro items ⟨root', collection, hroot', hcollection', -⟩
          obtain rfl : root = root' := Option.some.inj (hroot.symm.trans hroot')
          rw [hcollection] at hcollection'
          contradiction
      | some collection =>
          have hunique {items : List ProjectionNode}
              (h : InspectedCollection contract projections items) :
              collection.itemCount ≠ some 0 ∧ collection.items = some items ∧ items ≠ [] ∧
                collection.arrayTruncated ≠ some true := by
            obtain ⟨root', collection', hroot', hcollection', hrest⟩ := h
            obtain rfl : root = root' := Option.some.inj (hroot.symm.trans hroot')
            obtain rfl : collection = collection' :=
              Option.some.inj (hcollection.symm.trans hcollection')
            exact hrest
          by_cases hempty : collection.itemCount = some 0 ∨ collection.items.getD [] = []
          · refine .inl ⟨if_pos (by simpa using hempty), ?_⟩
            intro items h
            obtain ⟨hcount, hitems, hne, -⟩ := hunique h
            rcases hempty with hzero | hnil
            · exact hcount hzero
            · rw [hitems] at hnil
              exact hne hnil
          · refine .inr ⟨_, _, if_neg (by simpa using hempty), ?_⟩
            push Not at hempty
            intro items
            constructor
            · intro h
              obtain ⟨-, hitems, -, htruncated⟩ := hunique h
              exact ⟨decide_eq_false htruncated, by rw [hitems]; rfl⟩
            · rintro ⟨htruncated, rfl⟩
              cases hitems : collection.items with
              | none =>
                  rw [hitems] at hempty
                  exact absurd rfl hempty.2
              | some items =>
                  rw [hitems] at hempty
                  exact ⟨root, collection, hroot, hcollection, hempty.1, hitems, hempty.2,
                    of_decide_eq_false htruncated⟩

theorem coverage_full_iff (contract : CollectionItemContract) (projections : List ProjectionNode) :
    (evaluateInvariant numberText ctx projections (.collectionItemContract contract)).coverageState =
        some .fullyEvaluatedPass ↔ ∃ items, InspectedCollection contract projections items ∧
        ∀ item ∈ items, contradicts contract item = false := by
  obtain ⟨heq, hnone⟩ | ⟨truncated, items, heq, hinspected⟩ :=
    evaluateCollection_cases numberText ctx contract projections
  · rw [heq]
    simp [hnone]
  · rw [heq, evaluateItems_full]
    constructor
    · rintro ⟨htruncated, hall⟩
      exact ⟨items, (hinspected items).mpr ⟨htruncated, rfl⟩, hall⟩
    · rintro ⟨items', hitems', hall⟩
      obtain ⟨htruncated, rfl⟩ := (hinspected items').mp hitems'
      exact ⟨htruncated, hall⟩

theorem full_exactly_iff (contract : CollectionItemContract) (projections : List ProjectionNode) :
    ((evaluateInvariant numberText ctx projections (.collectionItemContract contract)).coverageState =
        some .fullyEvaluatedPass ↔ FullyPasses numberText ctx contract projections) ↔
      Decided contract projections := by
  rw [coverage_full_iff]
  simp only [FullyPasses, ← itemVerdict_eq, itemVerdict_eq_pass]
  constructor
  · intro h items hitems hundecided
    by_contra hnone
    push Not at hnone
    simp only [ne_eq, Bool.not_eq_true] at hnone
    obtain ⟨items', hitems', hall⟩ := h.mp ⟨items, hitems, hnone⟩
    obtain rfl := inspectedCollection_unique hitems hitems'
    obtain ⟨item, hitem, hitemUndecided⟩ := hundecided
    rw [(hall item hitem).1] at hitemUndecided
    contradiction
  · intro h
    constructor
    · rintro ⟨items, hitems, hall⟩
      refine ⟨items, hitems, fun item hitem => ⟨?_, hall item hitem⟩⟩
      by_contra hundecided
      obtain ⟨item', hitem', hcontra⟩ := h items hitems ⟨item, hitem, by simpa using hundecided⟩
      rw [hall item' hitem'] at hcontra
      contradiction
    · rintro ⟨items, hitems, hall⟩
      exact ⟨items, hitems, fun item hitem => (hall item hitem).2⟩

end Collections

section Outcomes

variable (rt : Runtime) (sha256Hex : JsString → JsString)

def textOf : ℚ → JsString := fun q => rt.numberText (.finite q)

def contractsOf (expectation : SemanticExpectation) : List CollectionItemContract :=
  expectation.invariantDefinitions.filterMap fun
    | .collectionItemContract contract => some contract
    | _ => none

theorem mem_contractsOf {expectation : SemanticExpectation} {contract : CollectionItemContract} :
    contract ∈ contractsOf expectation ↔
      .collectionItemContract contract ∈ expectation.invariantDefinitions := by
  rw [contractsOf, List.mem_filterMap]
  constructor
  · rintro ⟨invariant, hmem, hcontract⟩
    cases invariant with
    | collectionItemContract found =>
        obtain rfl : found = contract := Option.some.inj hcontract
        exact hmem
    | _ => contradiction
  · intro hmem
    exact ⟨_, hmem, rfl⟩

/-- `PASS` means that every invariant passed and every collection contract on every item of
a complete, non-empty collection, and the full pass is reported exactly then. -/
def PassIsCovered (input : SemanticEvaluationInput) : Prop :=
  (∀ result, evaluateSemanticExpectation rt sha256Hex input = some result →
    result.outcome = .pass →
      (∀ invariant ∈ input.expectation.invariantDefinitions,
        (evaluateInvariant (textOf rt) input.ctx input.projections invariant).verdict = .pass) ∧
      ∀ contract ∈ contractsOf input.expectation,
        FullyPasses (textOf rt) input.ctx contract input.projections) ∧
  ∀ contract ∈ contractsOf input.expectation,
    (evaluateInvariant (textOf rt) input.ctx input.projections
        (.collectionItemContract contract)).coverageState = some .fullyEvaluatedPass ↔
      FullyPasses (textOf rt) input.ctx contract input.projections

theorem quietOutcome_eq_pass {evaluations : List InvariantEvaluation}
    (h : quietOutcome evaluations = .pass) :
    ∀ e ∈ evaluations, e.verdict = .pass ∧ e.coverageState ≠ some .partialCoverageNoViolation := by
  rw [quietOutcome] at h
  split at h
  · contradiction
  · rename_i hpartly
    split at h
    · rename_i hall
      simp only [Bool.or_eq_true, List.any_eq_true, decide_eq_true_eq, not_or, not_exists,
        not_and] at hpartly
      simp only [Bool.and_eq_true, List.all_eq_true, decide_eq_true_eq] at hall
      intro e he
      exact ⟨hall.2 e he, hpartly.1 e he⟩
    · contradiction

theorem outcome_pass {input : SemanticEvaluationInput} {result : SemanticEvaluationResult}
    (h : evaluateSemanticExpectation rt sha256Hex input = some result)
    (hpass : result.outcome = .pass) (invariant : InvariantDefinition)
    (hmem : invariant ∈ input.expectation.invariantDefinitions) :
    (evaluateInvariant (textOf rt) input.ctx input.projections invariant).verdict = .pass ∧
      (evaluateInvariant (textOf rt) input.ctx input.projections invariant).coverageState ≠
        some .partialCoverageNoViolation := by
  rw [evaluateSemanticExpectation] at h
  split at h
  · obtain rfl := Option.some.inj h
    contradiction
  · obtain rfl := Option.some.inj h
    contradiction
  · simp only at h
    split at h
    · obtain rfl := Option.some.inj h
      contradiction
    · split at h
      · obtain rfl := Option.some.inj h
        exact quietOutcome_eq_pass hpass _ (List.mem_map_of_mem hmem)
      · simp only [Option.bind_eq_bind, Option.bind_eq_some_iff] at h
        obtain ⟨_, -, _, -, h⟩ := h
        obtain rfl := Option.some.inj h
        contradiction

theorem coverage_of_pass {numberText : ℚ → JsString} {ctx : ProjectionContext}
    {projections : List ProjectionNode} {contract : CollectionItemContract}
    (hpass : (evaluateInvariant numberText ctx projections
      (.collectionItemContract contract)).verdict = .pass)
    (hcover : (evaluateInvariant numberText ctx projections
      (.collectionItemContract contract)).coverageState ≠ some .partialCoverageNoViolation) :
    (evaluateInvariant numberText ctx projections
      (.collectionItemContract contract)).coverageState = some .fullyEvaluatedPass := by
  obtain ⟨heq, -⟩ | ⟨truncated, items, heq, -⟩ :=
    evaluateCollection_cases numberText ctx contract projections
  · rw [heq] at hpass
    contradiction
  · rw [heq] at hpass hcover ⊢
    exact (evaluateItems_pass hpass).resolve_left hcover

/-- A `PASS` covers what it says exactly when no completely inspected collection of the
expectation has an item its invariant cannot decide while no item contradicts it. -/
theorem pass_is_covered_iff (input : SemanticEvaluationInput) : PassIsCovered rt sha256Hex input ↔
      ∀ contract ∈ contractsOf input.expectation, Decided contract input.projections := by
  constructor
  · intro h contract hcontract
    exact (full_exactly_iff (textOf rt) input.ctx contract input.projections).mp
      (h.2 contract hcontract)
  · intro h
    have hexact (contract) (hcontract : contract ∈ contractsOf input.expectation) :=
      (full_exactly_iff (textOf rt) input.ctx contract input.projections).mpr (h contract hcontract)
    refine ⟨?_, hexact⟩
    intro result hresult hpass
    refine ⟨fun invariant hmem => (outcome_pass rt sha256Hex hresult hpass invariant hmem).1, ?_⟩
    intro contract hcontract
    have hcovered := outcome_pass rt sha256Hex hresult hpass _ (mem_contractsOf.mp hcontract)
    exact (hexact contract hcontract).mp (coverage_of_pass hcovered.1 hcovered.2)

def rowContract : CollectionItemContract :=
  ⟨["rows".toList], .typeMatch .string, ["name".toList]⟩

def rowProvenance : SourceProvenance :=
  ⟨"web".toList, List.replicate 40 'a', "src/rows.ts".toList, none, "v1".toList, none⟩

def rowWithoutName : ProjectionNode := .object (some 0) []

def rowInput : SemanticEvaluationInput :=
  { oracleId := "oracle".toList
    expectation := ⟨"rows".toList, "list-rows".toList, rowProvenance,
      [.collectionItemContract rowContract]⟩
    projections := [objectOf [("rows".toList, arrayOf 1 [rowWithoutName])]]
    ctx := .fresh ⟨8, 64, 128, 1024, 256, 512, 1000000⟩
    sourceSnapshot := some ⟨"web".toList, List.replicate 40 'a'⟩
    journeyId := none
    stepId := none
    operationId := none }

/-- The row lacks the field, and the expectation passes as fully evaluated. -/
theorem pass_without_the_field : ¬PassIsCovered plainRuntime id rowInput := by
  intro h
  have hfull : (evaluateInvariant (textOf plainRuntime) rowInput.ctx rowInput.projections
      (.collectionItemContract rowContract)).coverageState = some .fullyEvaluatedPass := by
    decide
  obtain ⟨items, hitems, hall⟩ := (h.2 rowContract (mem_contractsOf.mpr (.head _))).mp hfull
  have hrow : InspectedCollection rowContract rowInput.projections [rowWithoutName] :=
    ⟨_, arrayOf 1 [rowWithoutName], rfl, rfl, by decide, rfl, by simp, by decide⟩
  obtain rfl := inspectedCollection_unique hitems hrow
  have hpass := hall rowWithoutName (.head _)
  rw [← itemVerdict_eq] at hpass
  contradiction

end Outcomes

end NightWatch.Oracles.PassCoverage
