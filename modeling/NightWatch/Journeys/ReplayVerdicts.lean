import NightWatch.Journeys.Replay

namespace NightWatch.Journeys.ReplayVerdicts

open Lib.JsText Lib.JsData Lib.JsRuntime Lib.TextOrder Lib.CanonicalText Lib.Slots Journeys.Replay

variable {rt : Runtime} {a b : JourneyEvidence}

theorem withinLimits_comm (v w : JsValue) : withinLimits rt v w = withinLimits rt w v := by
  simp only [withinLimits, Nat.add_comm (nodes w), Bool.and_comm, Bool.and_left_comm,
    Bool.and_assoc]

theorem sameJson_comm (v w : JsValue) : sameJson rt v w = sameJson rt w v := by
  simp only [sameJson, withinLimits_comm w v, eq_comm (a := stableJsonSorted rt w)]

theorem sameTexts_comm (xs ys : List JsString) : sameTexts rt xs ys = sameTexts rt ys xs :=
  sameJson_comm _ _

variable {α : Type}

variable {same : α → α → Bool}

theorem differ_comm (h : ∀ x y, same x y = same y x)
    (x y : Option α) : differ same x y = differ same y x := by
  cases x with
  | none => cases y <;> rfl
  | some x =>
      cases y with
      | none => rfl
      | some y => rw [differ, differ, h]

theorem delta_comm (x y : Option ℚ) : delta x y = delta y x := by
  cases x with
  | none => cases y <;> rfl
  | some x =>
      cases y with
      | none => rfl
      | some y => rw [delta, delta, abs_sub_comm]

theorem beq_comm_of [BEq α] [LawfulBEq α] (x y : α) : (x == y) = (y == x) := by
  rw [Bool.eq_iff_iff, beq_iff_eq, beq_iff_eq, eq_comm]

theorem bne_comm_of [BEq α] [LawfulBEq α] (x y : α) : (x != y) = (y != x) := by
  rw [bne, bne, beq_comm_of]

theorem sameContract_comm : sameContract a b = sameContract b a := by
  simp only [sameContract, Bool.and_comm a.contractDigest.isSome, beq_comm_of a.journeyId,
    beq_comm_of a.contractDigest, beq_comm_of a.contractVersion, beq_comm_of a.contractSourceSha]

theorem sameMarkers_comm : sameMarkers rt a b = sameMarkers rt b a := by
  simp only [sameMarkers, beq_comm_of a.globalShellReady, sameJson_comm (flags a.journeyMarkers)]

theorem safetyEqual_comm : safetyEqual rt a b = safetyEqual rt b a := by
  simp only [safetyEqual, beq_comm_of a.mutationCount, beq_comm_of a.actionUnknownCount,
    beq_comm_of a.safetyStatus, differ_comm (fun x y => sameJson_comm (safetyCountsValue x)
      (safetyCountsValue y)) a.safetyCounts]

theorem mismatched_comm (channel : Mismatch) :
    mismatched rt a b channel = mismatched rt b a channel := by
  cases channel with
  | journeyContract => simp only [mismatched, sameContract_comm (a := a)]
  | finalRouteClass => exact bne_comm_of _ _
  | structuralCheckpoints => simp only [mismatched, sameMarkers_comm (a := a)]
  | stepResults => simp only [mismatched, sameJson_comm (steps a)]
  | semanticEndpointFamilies =>
      simp only [mismatched, sameTexts_comm (semanticFamilies a), sameJson_comm (classes a)]
  | semanticRequestLedger => exact differ_comm sameTexts_comm _ _
  | safetyLedger => simp only [mismatched, safetyEqual_comm (a := a)]
  | authValidity => exact bne_comm_of _ _
  | oracleSet => exact differ_comm sameTexts_comm _ _
  | oracleOrResultStatus =>
      simp only [mismatched, bne_comm_of a.oracleStatus, bne_comm_of a.passed]
  | resourceLifecycle => exact differ_comm sameTexts_comm _ _
  | privacyStatus => exact bne_comm_of _ _

theorem mismatches_comm : mismatches rt a b = mismatches rt b a :=
  List.filter_congr fun channel _ => mismatched_comm channel

theorem varied_comm (channel : Variance) : varied rt a b channel = varied rt b a channel := by
  cases channel with
  | resourceContainment => exact differ_comm sameTexts_comm _ _
  | routeStabilityTiming => simp only [varied, delta_comm a.routeStabilityMs]
  | passiveUnknownCount => exact bne_comm_of _ _
  | semanticRequestCount =>
      simp only [varied, delta_comm (requestCount a), mismatches_comm (a := a)]
  | backgroundAndCleanup => exact differ_comm (fun x y => beq_comm_of _ _) _ _
  | containmentCount => exact differ_comm beq_comm_of _ _

theorem variance_comm : variance rt a b = variance rt b a :=
  List.filter_congr fun channel _ => varied_comm channel

theorem hasProductStateDifference_comm :
    hasProductStateDifference rt a b = hasProductStateDifference rt b a := by
  rw [hasProductStateDifference, hasProductStateDifference,
    Bool.and_comm (!hasTriggeredAnomalyClass a _)]
  cases oracleKeys a with
  | none => cases oracleKeys b <;> rfl
  | some keys =>
      cases oracleKeys b with
      | none => rfl
      | some keys' =>
          dsimp only
          rw [sameTexts_comm keys keys']
          congr 2
          simp only [Bool.or_comm, Bool.or_left_comm]

theorem classifyChannels_comm (strict : List Mismatch) (bounded : List Variance) :
    classifyChannels rt a b strict bounded = classifyChannels rt b a strict bounded := by
  simp only [classifyChannels, hasProductStateDifference_comm (a := a), Bool.and_assoc,
    Bool.and_comm a.passed]

theorem classifyReplayOutcome_comm (strict : List Mismatch) (bounded : List Variance) :
    classifyReplayOutcome rt a b strict bounded = classifyReplayOutcome rt b a strict bounded := by
  have hcodes : sortedSet ("CAPTURE_INCOMPLETE".toList :: captureFailureCodes a ++
        captureFailureCodes b) =
      sortedSet ("CAPTURE_INCOMPLETE".toList :: captureFailureCodes b ++ captureFailureCodes a) := by
    apply sortedSet_congr
    intro s
    simp only [List.mem_append, List.mem_cons]
    tauto
  simp only [classifyReplayOutcome, environmentChanged, bne_comm_of a.authValid,
    differ_comm beq_comm_of a.environmentInputDigest, Bool.or_comm (a.observationSettlement == _),
    Bool.or_comm (a.captureStatus == _), Bool.and_assoc,
    Bool.and_comm (!hasIndependentObservationFailure a), classifyChannels_comm (a := a), hcodes]

def comparedValues (rt : Runtime) (evidence : JourneyEvidence) : List JsValue :=
  [flags evidence.journeyMarkers, steps evidence, texts (semanticFamilies evidence),
    classes evidence] ++
    ([strictSemanticLedger rt evidence, oracleKeys evidence, resourceFailureKeys evidence,
      resourceContainmentKeys evidence].flatMap fun keys => (keys.map texts).toList) ++
    (evidence.safetyCounts.map safetyCountsValue).toList

/-- Every value of the record may be compared with itself. -/
def Bounded (rt : Runtime) (evidence : JourneyEvidence) : Prop :=
  ∀ value ∈ comparedValues rt evidence, withinLimits rt value value = true

instance : Decidable (Bounded rt a) :=
  inferInstanceAs (Decidable (∀ value ∈ comparedValues rt a, _))

theorem sameJson_self {value : JsValue} (h : withinLimits rt value value = true) :
    sameJson rt value value = true := by
  rw [sameJson, h, decide_eq_true rfl]
  rfl

theorem Bounded.flags (h : Bounded rt a) :
    sameJson rt (flags a.journeyMarkers) (flags a.journeyMarkers) = true :=
  sameJson_self (h _ (by simp [comparedValues]))

theorem Bounded.steps (h : Bounded rt a) : sameJson rt (steps a) (steps a) = true :=
  sameJson_self (h _ (by simp [comparedValues]))

theorem Bounded.families (h : Bounded rt a) :
    sameTexts rt (semanticFamilies a) (semanticFamilies a) = true :=
  sameJson_self (h _ (by simp [comparedValues]))

theorem Bounded.classes (h : Bounded rt a) : sameJson rt (classes a) (classes a) = true :=
  sameJson_self (h _ (by simp [comparedValues]))

theorem differ_self {x : Option α}
    (h : ∀ y, x = some y → same y y = true) : differ same x x = false := by
  cases x with
  | none => rfl
  | some y => rw [differ, h y rfl, Bool.not_true]

theorem Bounded.keys (h : Bounded rt a) {keys : Option (List JsString)}
    (hmem : keys ∈ [strictSemanticLedger rt a, oracleKeys a, resourceFailureKeys a,
      resourceContainmentKeys a]) : differ (sameTexts rt) keys keys = false := by
  refine differ_self fun items hitems => sameJson_self (h _ ?_)
  rw [comparedValues, List.mem_append, List.mem_append]
  refine .inl (.inr (List.mem_flatMap.mpr ⟨keys, hmem, ?_⟩))
  simp [hitems]

theorem Bounded.safety (h : Bounded rt a) : safetyEqual rt a a = true := by
  have hcounts : differ (fun x y => sameJson rt (safetyCountsValue x) (safetyCountsValue y))
      a.safetyCounts a.safetyCounts = false :=
    differ_self fun counts hsome => sameJson_self (h _ (by simp [comparedValues, hsome]))
  simp [safetyEqual, hcounts]

theorem mismatches_self (h : Bounded rt a) : mismatches rt a a = [] := by
  rw [mismatches, List.filter_eq_nil_iff]
  intro channel _
  rw [Bool.not_eq_true]
  cases channel with
  | journeyContract => simp [mismatched, sameContract]
  | finalRouteClass => simp [mismatched]
  | structuralCheckpoints => simp [mismatched, sameMarkers, h.flags]
  | stepResults => simp [mismatched, h.steps]
  | semanticEndpointFamilies => simp [mismatched, h.families, h.classes]
  | semanticRequestLedger => exact h.keys (by simp)
  | safetyLedger => simp [mismatched, h.safety]
  | authValidity => simp [mismatched]
  | oracleSet => exact h.keys (by simp)
  | oracleOrResultStatus => simp [mismatched]
  | resourceLifecycle => exact h.keys (by simp)
  | privacyStatus => simp [mismatched]

theorem delta_self (x : Option ℚ) : (delta x x).any (· ≠ 0) = false := by
  cases x with
  | none => rfl
  | some x => simp [delta]

theorem variance_self (h : Bounded rt a) : variance rt a a = [] := by
  rw [variance, List.filter_eq_nil_iff]
  intro channel _
  rw [Bool.not_eq_true]
  cases channel with
  | resourceContainment => exact h.keys (by simp)
  | routeStabilityTiming => exact delta_self _
  | passiveUnknownCount => simp [varied]
  | semanticRequestCount => rw [varied, delta_self, Bool.false_and]
  | backgroundAndCleanup => exact differ_self fun y _ => by simp
  | containmentCount => exact differ_self fun y _ => by simp

/-- A failed oracle status beside a product anomaly: the record counts as a changed product even
where it is compared with itself. -/
def ProductFailure (evidence : JourneyEvidence) : Prop :=
  evidence.oracleStatus = .fail ∧ hasTriggeredAnomalyClass evidence .productBehaviorAnomaly = true

theorem hasProductStateDifference_self (h : Bounded rt a) (hpassed : a.passed = true) :
    hasProductStateDifference rt a a = true ↔ ProductFailure a := by
  rw [hasProductStateDifference, ProductFailure]
  cases htriggered : hasTriggeredAnomalyClass a .productBehaviorAnomaly with
  | false => simp
  | true =>
      cases hkeys : oracleKeys a with
      | none =>
          -- Without observations nothing was triggered.
          rw [oracleKeys, Option.map_eq_none_iff] at hkeys
          simp [hasTriggeredAnomalyClass, hkeys] at htriggered
      | some keys =>
          have hsame : differ (sameTexts rt) (oracleKeys a) (oracleKeys a) = false :=
            h.keys (by simp)
          rw [hkeys, differ, Bool.not_eq_false'] at hsame
          simp [hsame, hpassed]

theorem classify_self (hsettled : a.observationSettlement ≠ some .timedOut)
    (hcapture : a.captureStatus = some .complete) :
    classifyReplayOutcome rt a a [] [] = classifyChannels rt a a [] [] := by
  have henvironment : environmentChanged a a = false := differ_self fun y _ => by simp
  simp [classifyReplayOutcome, henvironment, hsettled, hcapture]

theorem compare_self_iff (h : Bounded rt a) (hpassed : a.passed = true)
    (hsettled : a.observationSettlement ≠ some .timedOut)
    (hcapture : a.captureStatus = some .complete) : ((compareJourneyReplay rt a a).passed = true ∧
      (compareJourneyReplay rt a a).classification = .match) ↔ ¬ ProductFailure a := by
  rw [compareJourneyReplay, mismatches_self h, variance_self h,
    classify_self hsettled hcapture, classifyChannels,
    ← hasProductStateDifference_self h hpassed]
  cases hasProductStateDifference rt a a with
  | true => simp [one]
  | false => simp [one, hpassed, replayPasses]

/-- Two optional values agree where both are there. -/
def Agree {α : Type} (same : α → α → Prop) (x y : Option α) : Prop :=
  ∀ v ∈ x, ∀ w ∈ y, same v w

/-- What a pass says of two records. -/
structure Confirmed (rt : Runtime) (a b : JourneyEvidence) : Prop where
  passed : a.passed = true ∧ b.passed = true
  auth : a.authValid = b.authValid
  safety : a.safetyStatus = b.safetyStatus ∧ a.mutationCount = b.mutationCount ∧
    a.actionUnknownCount = b.actionUnknownCount
  safetyCounts : Agree (fun v w => stableJsonSorted rt (safetyCountsValue v) =
    stableJsonSorted rt (safetyCountsValue w)) a.safetyCounts b.safetyCounts
  privacy : a.privacyStatus = b.privacyStatus
  oracle : a.oracleStatus = b.oracleStatus
  settled : a.observationSettlement ≠ some .timedOut ∧ b.observationSettlement ≠ some .timedOut
  captured : a.captureStatus ≠ some .incomplete ∧ b.captureStatus ≠ some .incomplete
  journey : a.journeyId = b.journeyId
  contract : (a.contractDigest.isSome = true ∧ b.contractDigest.isSome = true →
      a.contractDigest = b.contractDigest ∧ a.contractVersion = b.contractVersion) ∧
    (¬ (a.contractDigest.isSome = true ∧ b.contractDigest.isSome = true) →
      a.contractSourceSha = b.contractSourceSha)
  route : a.finalRouteClass = b.finalRouteClass
  markers : a.globalShellReady = b.globalShellReady ∧
    Same (flags a.journeyMarkers) (flags b.journeyMarkers)
  steps : Same (steps a) (steps b)
  families : semanticFamilies a = semanticFamilies b
  classes : a.semanticClasses = b.semanticClasses
  requests : Agree Eq (strictSemanticLedger rt a) (strictSemanticLedger rt b)
  oracles : Agree Eq (oracleKeys a) (oracleKeys b)
  resources : Agree Eq (resourceFailureKeys a) (resourceFailureKeys b)

theorem plain_texts (items : List JsString) : Plain (texts items) := by
  refine .arr fun v hv => ?_
  obtain ⟨s, -, rfl⟩ := List.mem_map.mp hv
  exact .str s

theorem plain_flags (record : Flags) : Plain (flags record) := by
  have hnames : (record.entries.map fun entry => (entry.1, JsValue.bool entry.2)).map Prod.fst =
      record.entries.map Prod.fst := by
    rw [List.map_map]
    rfl
  refine .obj (hnames ▸ record.nodup) fun entry hentry => ?_
  obtain ⟨flag, -, rfl⟩ := List.mem_map.mp hentry
  exact .bool _

theorem plain_stepValue (step : JourneyStepResult) : Plain (stepValue step) := by
  refine .obj (by simp [ofSlots]) fun entry hentry => ?_
  simp only [ofSlots, Option.map_some, Option.toList_some, List.cons_append,
    List.nil_append, List.mem_cons, List.not_mem_nil, or_false] at hentry
  rcases hentry with rfl | rfl | rfl | rfl | rfl | rfl | rfl
  · exact .str _
  · exact .str _
  · exact .str _
  · exact .str _
  · exact .bool _
  · exact plain_texts _
  · cases step.failureClassification with
    | none => exact .null
    | some failure => exact .str _

theorem plain_steps (evidence : JourneyEvidence) : Plain (steps evidence) := by
  refine .arr fun v hv => ?_
  obtain ⟨step, -, rfl⟩ := List.mem_map.mp hv
  exact plain_stepValue step

theorem same_of_sameJson (hnumbers : WritesCounts rt.numberText) {v w : JsValue} (hv : Plain v)
    (hw : Plain w) (h : sameJson rt v w = true) : Same v w := by
  rw [sameJson, Bool.and_eq_true, decide_eq_true_eq] at h
  exact same_of_canonical hnumbers hv hw h.2

theorem eq_of_sameTexts (hnumbers : WritesCounts rt.numberText) {xs ys : List JsString}
    (h : sameTexts rt xs ys = true) : xs = ys :=
  same_map (fun _ _ hsame => same_str hsame)
    (same_of_sameJson hnumbers (plain_texts xs) (plain_texts ys) h)

theorem agree_of_differ {P : α → α → Prop}
    (hsame : ∀ v w, same v w = true → P v w) {x y : Option α} (h : differ same x y = false) :
    Agree P x y := by
  rintro v ⟨⟩ w ⟨⟩
  rw [differ, Bool.not_eq_false'] at h
  exact hsame v w h

theorem differ_of_pass (h : mismatches rt a b = []) (channel : Mismatch) :
    mismatched rt a b channel = false := by
  have hmem : channel ∈ strictChannels := by
    cases channel <;> simp [strictChannels]
  exact Bool.eq_false_iff.mpr (List.filter_eq_nil_iff.mp h channel hmem)

theorem settled_of_classified {strict : List Mismatch} {bounded : List Variance}
    (h : replayPasses (classifyReplayOutcome rt a b strict bounded).classification = true) :
    (a.observationSettlement ≠ some .timedOut ∧ b.observationSettlement ≠ some .timedOut) ∧
      a.captureStatus ≠ some .incomplete ∧ b.captureStatus ≠ some .incomplete := by
  rw [classifyReplayOutcome] at h
  split at h
  · contradiction
  split at h
  · contradiction
  split at h
  · contradiction
  rename_i hsettled
  split at h
  · contradiction
  rename_i hcaptured
  simpa only [Bool.or_eq_true, not_or, beq_iff_eq] using And.intro hsettled hcaptured

theorem confirmed_of_passed (hnumbers : WritesCounts rt.numberText)
    (h : (compareJourneyReplay rt a b).passed = true) : Confirmed rt a b := by
  simp only [compareJourneyReplay, Bool.and_eq_true, List.isEmpty_iff] at h
  obtain ⟨⟨⟨hmismatches, ha⟩, hb⟩, hclassified⟩ := h
  obtain ⟨hsettled, hcaptured⟩ := settled_of_classified hclassified
  have hequal := differ_of_pass hmismatches
  have hcontract := hequal .journeyContract
  have hmarkers := hequal .structuralCheckpoints
  have hsteps := hequal .stepResults
  have hfamilies := hequal .semanticEndpointFamilies
  have hsafety := hequal .safetyLedger
  have hstatus := hequal .oracleOrResultStatus
  simp only [mismatched, Bool.not_eq_false'] at hcontract hmarkers hsteps hsafety
  simp only [mismatched, Bool.or_eq_false_iff, Bool.not_eq_false'] at hfamilies hstatus
  simp only [sameMarkers, Bool.and_eq_true, beq_iff_eq] at hmarkers
  simp only [safetyEqual, Bool.and_eq_true, beq_iff_eq, Bool.not_eq_true'] at hsafety
  obtain ⟨⟨⟨hmutations, hunknown⟩, hsafetyStatus⟩, hcounts⟩ := hsafety
  have htexts : ∀ v w, sameTexts rt v w = true → v = w := fun _ _ => eq_of_sameTexts hnumbers
  have hclasses := eq_of_sameTexts hnumbers hfamilies.2
  have hinjective : Function.Injective fun item : EndpointSemanticClassification =>
      item.text.toList := by
    intro x y hxy
    cases x <;> cases y <;> first | rfl | exact absurd hxy (by decide)
  have hcontracts : a.journeyId = b.journeyId ∧
      (a.contractDigest.isSome = true ∧ b.contractDigest.isSome = true →
        a.contractDigest = b.contractDigest ∧ a.contractVersion = b.contractVersion) ∧
      (¬ (a.contractDigest.isSome = true ∧ b.contractDigest.isSome = true) →
        a.contractSourceSha = b.contractSourceSha) := by
    rw [sameContract] at hcontract
    split at hcontract
    · rename_i hboth
      simp only [Bool.and_eq_true, beq_iff_eq] at hboth hcontract
      exact ⟨hcontract.1.1, fun _ => ⟨hcontract.1.2, hcontract.2⟩, fun hnot => absurd hboth hnot⟩
    · rename_i hboth
      simp only [Bool.and_eq_true, beq_iff_eq] at hboth hcontract
      exact ⟨hcontract.1, fun h => absurd h hboth, fun _ => hcontract.2⟩
  exact
    { passed := ⟨ha, hb⟩
      auth := by simpa [mismatched] using hequal .authValidity
      safety := ⟨hsafetyStatus, hmutations, hunknown⟩
      safetyCounts := agree_of_differ (fun v w hsame => by
        rw [sameJson, Bool.and_eq_true, decide_eq_true_eq] at hsame
        exact hsame.2) hcounts
      privacy := by simpa [mismatched] using hequal .privacyStatus
      oracle := by simpa using hstatus.1
      settled := hsettled
      captured := hcaptured
      journey := hcontracts.1
      contract := hcontracts.2
      route := by simpa [mismatched] using hequal .finalRouteClass
      markers := ⟨hmarkers.1, same_of_sameJson hnumbers (plain_flags _) (plain_flags _) hmarkers.2⟩
      steps := same_of_sameJson hnumbers (plain_steps _) (plain_steps _) hsteps
      families := eq_of_sameTexts hnumbers hfamilies.1
      classes := List.map_injective_iff.mpr hinjective hclasses
      requests := agree_of_differ htexts (hequal .semanticRequestLedger)
      oracles := agree_of_differ htexts (hequal .oracleSet)
      resources := agree_of_differ htexts (hequal .resourceLifecycle) }

/-- The order of two records does not matter, a healthy record confirms itself unless it tells of
a product failure, and a pass is backed on every strict channel. -/
theorem replay_comparison (rt : Runtime) (hnumbers : WritesCounts rt.numberText) :
    (∀ a b, (compareJourneyReplay rt a b).passed = (compareJourneyReplay rt b a).passed ∧
      (compareJourneyReplay rt a b).classification = (compareJourneyReplay rt b a).classification ∧
      (compareJourneyReplay rt a b).diagnosticCodes =
        (compareJourneyReplay rt b a).diagnosticCodes ∧
      (compareJourneyReplay rt a b).strictInvariantMismatches =
        (compareJourneyReplay rt b a).strictInvariantMismatches ∧
      (compareJourneyReplay rt a b).boundedVariance =
        (compareJourneyReplay rt b a).boundedVariance) ∧
    (∀ a, Bounded rt a → a.passed = true → a.observationSettlement ≠ some .timedOut →
      a.captureStatus = some .complete →
      (((compareJourneyReplay rt a a).passed = true ∧
        (compareJourneyReplay rt a a).classification = .match) ↔ ¬ ProductFailure a)) ∧
    ∀ a b, (compareJourneyReplay rt a b).passed = true → Confirmed rt a b := by
  refine ⟨fun a b => ?_, fun a h hpassed hsettled hcapture =>
    compare_self_iff h hpassed hsettled hcapture, fun a b => confirmed_of_passed hnumbers⟩
  simp only [compareJourneyReplay, mismatches_comm (a := a), variance_comm (a := a),
    classifyReplayOutcome_comm (a := a), Bool.and_assoc, Bool.and_comm a.passed,
    and_self]

def healthy (oracleStatus : RunStatus) (anomalies : List JourneyOracleObservation) :
    JourneyEvidence where
  journeyId := ['j']
  contractSourceSha := ['c']
  passed := true
  finalRouteClass := ['r']
  globalShellReady := true
  journeyMarkers := ⟨[(['m'], true)], by simp⟩
  stepResults := []
  semanticRuleIds := []
  semanticClasses := []
  passiveUnknownCount := 0
  actionUnknownCount := 0
  mutationCount := 0
  routeStabilityMs := some 5
  authValid := true
  oracleStatus
  privacyStatus := .pass
  safetyStatus := .pass
  contractVersion := none
  contractDigest := none
  semanticRequests := none
  safetyCounts := none
  boundedVariance := none
  oracleObservations := some anomalies
  primaryFailure := none
  resourceObservations := none
  containmentCounts := none
  captureStatus := some .complete
  observationSettlement := some .settled
  captureFailureCodes := none
  environmentInputDigest := none

theorem replay_comparison_healthy :
    WritesCounts plainRuntime.numberText ∧ Bounded plainRuntime (healthy .pass []) ∧
      (compareJourneyReplay plainRuntime (healthy .pass []) (healthy .pass [])).passed = true ∧
      Confirmed plainRuntime (healthy .pass []) (healthy .pass []) := by
  obtain ⟨-, hself, hpasses⟩ := replay_comparison plainRuntime writesCounts_plain
  have hbounded : Bounded plainRuntime (healthy .pass []) := by decide +kernel
  have hpassed := (hself _ hbounded rfl (by decide) rfl).mpr fun h => absurd h.1 (by decide)
  exact ⟨writesCounts_plain, hbounded, hpassed.1, hpasses _ _ hpassed.1⟩

def productAnomaly : JourneyOracleObservation :=
  ⟨['o'], true, .error, .productBehaviorAnomaly, none⟩

/-- A record that passed, settled and was captured, and yet does not match itself. -/
theorem product_failure_drifts : Bounded plainRuntime (healthy .fail [productAnomaly]) ∧
      (compareJourneyReplay plainRuntime (healthy .fail [productAnomaly])
        (healthy .fail [productAnomaly])).passed = false ∧
      (compareJourneyReplay plainRuntime (healthy .fail [productAnomaly])
        (healthy .fail [productAnomaly])).classification = .expectedProductStateDrift := by
  decide +kernel

end NightWatch.Journeys.ReplayVerdicts
