import NightWatch.Exploration.States

namespace NightWatch.Exploration.Planner

open Lib.JsText Lib.JsData Exploration.States

structure SplitMix64 where
  state : UInt64
  index : Nat

/-- The seed: `0x` and sixteen lowercase hexadecimal digits. -/
def parseCanonicalSeed : JsString → Except String UInt64
  | '0' :: 'x' :: digits =>
      if digits.length = 16 ∧ digits.all (fun c => c.isDigit || ('a' ≤ c && c ≤ 'f')) then
        .ok (UInt64.ofNat ((hexNumber digits).getD 0))
      else .error "seed must be canonical lowercase 0x-prefixed 16-hex uint64"
  | _ => .error "seed must be canonical lowercase 0x-prefixed 16-hex uint64"

def mix (value : UInt64) : UInt64 :=
  let z := (value ^^^ (value >>> 30)) * 0xbf58476d1ce4e5b9
  let z := (z ^^^ (z >>> 27)) * 0x94d049bb133111eb
  z ^^^ (z >>> 31)

def SplitMix64.nextUint64 (rng : SplitMix64) : UInt64 × SplitMix64 :=
  let state := rng.state + 0x9e3779b97f4a7c15
  (mix state, ⟨state, rng.index + 1⟩)

/-- `nextInt(bound)` for a positive bound. -/
def SplitMix64.nextInt (rng : SplitMix64) (bound : Nat) : Nat × SplitMix64 :=
  (rng.nextUint64.1.toNat % bound, rng.nextUint64.2)

section Planning

inductive ExclusionReason where
  | staleSource
  | semanticPolicyBlock
  | routeNotApproved
  | preconditionFalse
  | runtimeControlAbsent
  | maxVisitsReached
  | actionAlreadyExhausted
  | budgetLimit

structure PlannerDecision where
  index : Nat
  stateId : JsString
  eligibleActions : List JsString
  excludedActions : List (JsString × ExclusionReason)
  chosenAction : Option JsString

structure SeededFrontierPlanner where
  rng : SplitMix64
  stateVisits : List (JsString × Nat)
  transitionVisits : List (JsString × Nat)

def SeededFrontierPlanner.ofSeed (seed : JsString) : Except String SeededFrontierPlanner := do
  let parsed ← parseCanonicalSeed seed
  return ⟨⟨parsed, 0⟩, [], []⟩

def visitKey (stateId actionId : JsString) : JsString := stateId ++ '|' :: actionId

def SeededFrontierPlanner.stateVisitCount (planner : SeededFrontierPlanner) (stateId : JsString) :
    Nat := (planner.stateVisits.lookup stateId).getD 0

def SeededFrontierPlanner.transitionVisitCount (planner : SeededFrontierPlanner)
    (stateId actionId : JsString) : Nat :=
  (planner.transitionVisits.lookup (visitKey stateId actionId)).getD 0

def SeededFrontierPlanner.noteState (planner : SeededFrontierPlanner) (stateId : JsString) :
    SeededFrontierPlanner :=
  { planner with
    stateVisits := mapSet stateId (planner.stateVisitCount stateId + 1) planner.stateVisits }

def SeededFrontierPlanner.noteAttempt (planner : SeededFrontierPlanner)
    (stateId actionId : JsString) : SeededFrontierPlanner :=
  { planner with
    transitionVisits := mapSet (visitKey stateId actionId)
      (planner.transitionVisitCount stateId actionId + 1) planner.transitionVisits }

def scalarFlag (flag : JsString × Bool) : JsString × SafeScalar := (flag.1, .flag flag.2)

/-- `actual[key] === value`. -/
def holdsAt (actual : SafeScalarMap) (entry : JsString × SafeScalar) : Bool :=
  ((actual.lookup entry.1).map entry.2.strictEq).getD false

def mapMatches (actual : SafeScalarMap) (expected : Option SafeScalarMap) : Bool :=
  (expected.getD []).all (holdsAt actual)

def hasForbiddenMatch (actual : SafeScalarMap) (forbidden : Option SafeScalarMap) : Bool :=
  (forbidden.getD []).any (holdsAt actual)

def preconditionsHold (state : ExplorationStateInput) (action : SafeAction) : Bool :=
  state.routeClass ∈ action.preconditions.routeClasses &&
    mapMatches (state.structuralFlags.map scalarFlag)
      (action.preconditions.requiredStructuralFlags.map (List.map scalarFlag)) &&
    mapMatches state.safeViewState action.preconditions.requiredSafeViewState &&
    !hasForbiddenMatch state.safeViewState action.preconditions.forbiddenSafeViewState

def staticExclusion (state : ExplorationStateInput) (action : SafeAction) :
    Option ExclusionReason :=
  if action.status ≠ .approved then some .staleSource
  else if action.semanticClass ≠ .knownRead && action.semanticClass ≠ .localOnly then
    some .semanticPolicyBlock
  else if state.routeClass ∉ action.preconditions.routeClasses then some .routeNotApproved
  else if !mapMatches (state.structuralFlags.map scalarFlag)
      (action.preconditions.requiredStructuralFlags.map (List.map scalarFlag)) then
    some .preconditionFalse
  else if !mapMatches state.safeViewState action.preconditions.requiredSafeViewState ||
      hasForbiddenMatch state.safeViewState action.preconditions.forbiddenSafeViewState then
    some .preconditionFalse
  else if action.actionId ∉ state.availableActionIds then some .runtimeControlAbsent
  else none

variable (catalog : List SafeAction) (envelope : ExplorationEnvelope) (budget : ExplorationBudget)
  (localeLe : JsString → JsString → Bool)

def exclusionOf (planner : SeededFrontierPlanner) (state : ExplorationState) (actionIndex : Nat)
    (action : SafeAction) : Option ExclusionReason :=
  match staticExclusion state.identity action with
  | some reason => some reason
  | none =>
      if (JsNumber.ofNat (planner.transitionVisitCount state.stateId action.actionId)).ge
          envelope.maxTransitionVisits then
        some .maxVisitsReached
      else if envelope.maxStateVisits.lt (.ofNat (planner.stateVisitCount state.stateId)) then
        some .actionAlreadyExhausted
      else if (JsNumber.ofNat actionIndex).ge
            (jsMin budget.maxActionsPerSequence envelope.maxActionsPerSequence) ||
          (JsNumber.ofNat actionIndex).ge (jsMin budget.maxDepth envelope.maxDepth) then
        some .budgetLimit
      else none

/-- `new Map(catalog.map((action) => [action.actionId, action])).get(id)`. -/
def catalogById (id : JsString) : Option SafeAction :=
  catalog.reverse.find? fun action => action.actionId = id

def candidates : List SafeAction :=
  (envelope.allowedActionIds.dedup.filterMap (catalogById catalog)).insertionSort fun a b =>
    localeLe a.actionId b.actionId = true

def eligibleActions (planner : SeededFrontierPlanner) (state : ExplorationState)
    (actionIndex : Nat) : List SafeAction :=
  (candidates catalog envelope localeLe).filter fun action =>
    (exclusionOf envelope budget planner state actionIndex action).isNone

def frontierOf (planner : SeededFrontierPlanner) (state : ExplorationState)
    (eligible : List SafeAction) : List SafeAction :=
  let visits := eligible.map fun action => planner.transitionVisitCount state.stateId action.actionId
  eligible.filter fun action =>
    planner.transitionVisitCount state.stateId action.actionId = visits.min?.getD 0

def SeededFrontierPlanner.withRng (planner : SeededFrontierPlanner) (rng : SplitMix64) :
    SeededFrontierPlanner := { planner with rng := rng }

def draw (planner : SeededFrontierPlanner) (frontier : List SafeAction) :
    Option SafeAction × SeededFrontierPlanner :=
  if 0 < frontier.length then
    (frontier[(planner.rng.nextInt frontier.length).1]?,
      planner.withRng (planner.rng.nextInt frontier.length).2)
  else (none, planner)

structure PlannerSelection where
  decision : PlannerDecision
  action : Option SafeAction
  planner : SeededFrontierPlanner

def select (planner : SeededFrontierPlanner) (state : ExplorationState) (actionIndex : Nat) :
    PlannerSelection :=
  let eligible := eligibleActions catalog envelope budget localeLe planner state actionIndex
  let drawn := draw planner (frontierOf planner state eligible)
  { decision :=
      { index := actionIndex
        stateId := state.stateId
        eligibleActions := eligible.map SafeAction.actionId
        excludedActions := (candidates catalog envelope localeLe).filterMap fun action =>
          (exclusionOf envelope budget planner state actionIndex action).map fun reason =>
            (action.actionId, reason)
        chosenAction := drawn.1.map SafeAction.actionId }
    action := drawn.1
    planner := drawn.2 }

variable {catalog envelope budget localeLe} {planner : SeededFrontierPlanner}
  {state : ExplorationState} {actionIndex : Nat} {action other : SafeAction}
  {actionId id stateId : JsString} {frontier : List SafeAction}

@[simp] theorem transitionVisitCount_noteState :
    (planner.noteState stateId).transitionVisitCount id actionId =
      planner.transitionVisitCount id actionId := rfl

theorem transitionVisitCount_noteAttempt {other : JsString} :
    (planner.noteAttempt stateId actionId).transitionVisitCount id other =
      planner.transitionVisitCount id other +
        if visitKey id other = visitKey stateId actionId then 1 else 0 := by
  dsimp only [SeededFrontierPlanner.noteAttempt, SeededFrontierPlanner.transitionVisitCount]
  rw [lookup_mapSet]
  split
  · rename_i hkey
    rw [hkey]
    rfl
  · rfl

theorem transitionVisits_withRng {rng : SplitMix64} :
    (planner.withRng rng).transitionVisits = planner.transitionVisits := rfl

theorem transitionVisits_draw :
    (draw planner frontier).2.transitionVisits = planner.transitionVisits := by
  rw [draw]
  split_ifs
  · exact transitionVisits_withRng
  · rfl

theorem transitionVisits_select :
    (select catalog envelope budget localeLe planner state actionIndex).planner.transitionVisits =
      planner.transitionVisits := transitionVisits_draw

theorem transitionVisitCount_congr {planner' : SeededFrontierPlanner}
    (h : planner'.transitionVisits = planner.transitionVisits) (id actionId : JsString) :
    planner'.transitionVisitCount id actionId = planner.transitionVisitCount id actionId := by
  rw [SeededFrontierPlanner.transitionVisitCount, h, SeededFrontierPlanner.transitionVisitCount]

theorem mem_of_draw (h : (draw planner frontier).1 = some action) : action ∈ frontier := by
  rw [draw] at h
  split_ifs at h with hlt
  exact List.mem_of_getElem? h

theorem mem_frontierOf {eligible : List SafeAction}
    (h : action ∈ frontierOf planner state eligible) : action ∈ eligible ∧ ∀ other ∈ eligible,
      planner.transitionVisitCount state.stateId action.actionId ≤
        planner.transitionVisitCount state.stateId other.actionId := by
  obtain ⟨hmem, hleast⟩ := List.mem_filter.mp h
  refine ⟨hmem, ?_⟩
  intro other hother
  have hvisits := List.mem_map_of_mem
    (f := fun action => planner.transitionVisitCount state.stateId action.actionId) hother
  rcases hmin : (eligible.map fun action =>
    planner.transitionVisitCount state.stateId action.actionId).min? with _ | least
  · rw [List.min?_eq_none_iff.mp hmin] at hvisits
    contradiction
  · have hle := (List.min?_eq_some_iff.mp hmin).2 _ hvisits
    rw [hmin] at hleast
    have heq : planner.transitionVisitCount state.stateId action.actionId = least := by
      simpa using hleast
    omega

theorem catalogById_eq_some (h : catalogById catalog id = some action) :
    action ∈ catalog ∧ action.actionId = id := by
  refine ⟨List.mem_reverse.mp (List.mem_of_find?_eq_some h), ?_⟩
  simpa using List.find?_some h

theorem catalogById_of_mem (hids : (catalog.map SafeAction.actionId).Nodup)
    (hmem : action ∈ catalog) : catalogById catalog action.actionId = some action := by
  rcases hfound : catalogById catalog action.actionId with _ | found
  · have hnot := List.find?_eq_none.mp hfound action (List.mem_reverse.mpr hmem)
    simp at hnot
  · obtain ⟨hfoundMem, hid⟩ := catalogById_eq_some hfound
    rw [List.inj_on_of_nodup_map hids hfoundMem hmem hid]

theorem mem_candidates : action ∈ candidates catalog envelope localeLe ↔
    action.actionId ∈ envelope.allowedActionIds ∧
      catalogById catalog action.actionId = some action := by
  rw [candidates, (List.perm_insertionSort _ _).mem_iff, List.mem_filterMap]
  constructor
  · rintro ⟨id, hid, hfound⟩
    obtain ⟨-, rfl⟩ := catalogById_eq_some hfound
    exact ⟨List.mem_dedup.mp hid, hfound⟩
  · rintro ⟨hallowed, hfound⟩
    exact ⟨action.actionId, List.mem_dedup.mpr hallowed, hfound⟩

theorem excludes_eq_none {condition : Prop} [Decidable condition] {reason : ExclusionReason}
    {rest : Option ExclusionReason} :
    (if condition then some reason else rest) = none ↔ ¬condition ∧ rest = none := by
  split_ifs with h
  · simp [h]
  · simp [h]

theorem exclusionOf_eq_none : exclusionOf envelope budget planner state actionIndex action = none ↔
    staticExclusion state.identity action = none ∧
      (JsNumber.ofNat (planner.transitionVisitCount state.stateId action.actionId)).ge
        envelope.maxTransitionVisits = false ∧
      envelope.maxStateVisits.lt (.ofNat (planner.stateVisitCount state.stateId)) = false ∧
      ((JsNumber.ofNat actionIndex).ge
          (jsMin budget.maxActionsPerSequence envelope.maxActionsPerSequence) ||
        (JsNumber.ofNat actionIndex).ge (jsMin budget.maxDepth envelope.maxDepth)) = false := by
  unfold exclusionOf
  cases staticExclusion state.identity action with
  | some reason => simp
  | none =>
      simp only [excludes_eq_none, Bool.not_eq_true, true_and, and_true]

theorem lt_of_ge {m n : Nat} {limit : JsNumber} (hm : (JsNumber.ofNat m).ge limit = false)
    (hn : (JsNumber.ofNat n).ge limit = true) : m < n := by
  cases limit with
  | nan => simp [JsNumber.ofNat, JsNumber.ge] at hn
  | negInfinity => simp [JsNumber.ofNat, JsNumber.ge, JsNumber.lt] at hm
  | posInfinity => simp [JsNumber.ofNat, JsNumber.ge, JsNumber.lt] at hn
  | finite q =>
      have hlow : (m : ℚ) < q := by simpa [JsNumber.ofNat, JsNumber.ge, JsNumber.lt] using hm
      have hhigh : q ≤ (n : ℚ) := by simpa [JsNumber.ofNat, JsNumber.ge, JsNumber.lt] using hn
      exact_mod_cast hlow.trans_le hhigh

theorem select_spec
    (h : (select catalog envelope budget localeLe planner state actionIndex).action = some action) :
    action ∈ candidates catalog envelope localeLe ∧
      exclusionOf envelope budget planner state actionIndex action = none ∧
      ∀ other ∈ candidates catalog envelope localeLe, staticExclusion state.identity other = none →
        planner.transitionVisitCount state.stateId action.actionId ≤
          planner.transitionVisitCount state.stateId other.actionId := by
  obtain ⟨heligible, hleast⟩ := mem_frontierOf (mem_of_draw h)
  obtain ⟨hcandidate, hfree⟩ := List.mem_filter.mp heligible
  have hfree := Option.isNone_iff_eq_none.mp hfree
  refine ⟨hcandidate, hfree, ?_⟩
  intro other hother hstatic
  obtain ⟨-, hvisits, hstate, hbudget⟩ := exclusionOf_eq_none.mp hfree
  rcases hmore : (JsNumber.ofNat (planner.transitionVisitCount state.stateId other.actionId)).ge
    envelope.maxTransitionVisits with _ | _
  · have hexclusion : exclusionOf envelope budget planner state actionIndex other = none :=
      exclusionOf_eq_none.mpr ⟨hstatic, hmore, hstate, hbudget⟩
    exact hleast other (List.mem_filter.mpr ⟨hother, Option.isNone_iff_eq_none.mpr hexclusion⟩)
  · exact Nat.le_of_lt (lt_of_ge hvisits hmore)

end Planning

end NightWatch.Exploration.Planner
