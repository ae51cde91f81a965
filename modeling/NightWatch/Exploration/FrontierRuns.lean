import NightWatch.Exploration.Engine

/-!
What holds over every run of an exploration: only permitted actions are executed, within
the limits, and the actions that a state admits are tried there equally often, up to one.
-/

namespace NightWatch.Exploration.FrontierRuns

open Lib.JsText Lib.JsData Lib.Guard Lib.Machine Exploration.States Exploration.Planner
  Exploration.Engine

/-- What a hexadecimal digest is made of. -/
def Hexadecimal (s : JsString) : Prop := ∀ c ∈ s, c.isDigit = true ∨ 'a' ≤ c ∧ c ≤ 'f'

variable {stateHash : ExplorationStateInput → JsString} {catalog : List SafeAction}
  {envelope : ExplorationEnvelope} {budget : ExplorationBudget}
  {localeLe : JsString → JsString → Bool}

/-- A state that `createExplorationState` built. -/
def Created (stateHash : ExplorationStateInput → JsString) (state : ExplorationState) : Prop :=
  state.stateId = "state_".toList ++ stateHash state.identity

variable {state : ExplorationState} {e : ExplorationState × SafeAction} {history : List Turn}

theorem created_of_create {input : ExplorationStateInput}
    (h : createExplorationState stateHash input = .ok state) : Created stateHash state := by
  obtain ⟨identity, -, hstate⟩ := bind_eq_ok.mp h
  obtain rfl := Except.ok.inj hstate
  rfl

theorem bar_not_mem_stateId (hhex : ∀ input, Hexadecimal (stateHash input))
    {state : ExplorationState} (hcreated : Created stateHash state) : '|' ∉ state.stateId := by
  rw [hcreated, List.mem_append]
  rintro (hmem | hmem)
  · exact absurd hmem (by decide)
  · rcases hhex _ _ hmem with hdigit | ⟨-, hle⟩
    · exact absurd hdigit (by decide)
    · exact absurd hle (by decide)

variable {actionId : JsString}

theorem visitKey_inj {id id' actionId' : JsString} (hid : '|' ∉ id) (hid' : '|' ∉ id')
    (h : visitKey id actionId = visitKey id' actionId') : id = id' ∧ actionId = actionId' := by
  have hsplit := congrArg (splitFirst '|') h
  rw [visitKey, visitKey, splitFirst_append hid, splitFirst_append hid'] at hsplit
  exact Prod.mk.inj (Option.some.inj hsplit)

section Calls

/-- An action that may be executed in a state. -/
structure MayRun (catalog : List SafeAction) (envelope : ExplorationEnvelope)
    (state : ExplorationState) (action : SafeAction) : Prop where
  listed : action ∈ catalog
  allowed : action.actionId ∈ envelope.allowedActionIds
  approved : action.status = .approved
  harmless : action.semanticClass = .knownRead ∨ action.semanticClass = .localOnly
  holds : preconditionsHold state.identity action = true
  available : action.actionId ∈ state.identity.availableActionIds

variable {action : SafeAction} {run : ExplorationRun}

theorem staticExclusion_eq_none {state : ExplorationStateInput} :
    staticExclusion state action = none ↔ action.status = .approved ∧
      (action.semanticClass = .knownRead ∨ action.semanticClass = .localOnly) ∧
      preconditionsHold state action = true ∧ action.actionId ∈ state.availableActionIds := by
  unfold staticExclusion preconditionsHold
  simp only [excludes_eq_none, Bool.and_eq_true, Bool.or_eq_true, Bool.not_eq_true', not_or,
    decide_eq_true_eq, Bool.not_eq_false, Bool.not_eq_true, ne_eq, not_not, and_true]
  tauto

variable (localeLe) in
theorem mayRun_iff (hids : (catalog.map SafeAction.actionId).Nodup) {state : ExplorationState}
    {action : SafeAction} : MayRun catalog envelope state action ↔
      action ∈ candidates catalog envelope localeLe ∧
        staticExclusion state.identity action = none := by
  rw [mem_candidates, staticExclusion_eq_none]
  constructor
  · rintro ⟨hlisted, hallowed, hrest⟩
    exact ⟨⟨hallowed, catalogById_of_mem hids hlisted⟩, by tauto⟩
  · rintro ⟨⟨hallowed, hfound⟩, hstatus, hclass, hholds, havailable⟩
    exact ⟨(catalogById_eq_some hfound).1, hallowed, hstatus, hclass, hholds, havailable⟩

structure Settled (stateHash : ExplorationStateInput → JsString) (run run' : ExplorationRun) :
    Prop where
  planner : run'.planner = run.planner
  planned : run'.plannedActions = run.plannedActions
  attempted : run'.transitionsAttempted = run.transitionsAttempted
  state : run'.state = run.state ∨ Created stateHash run'.state
  states : run'.states = run.states ∨ ∃ next, run'.states = mapSet next.stateId next run.states

theorem settled_settle {run' : ExplorationRun} {index : Nat} {result : ActionExecutionResult}
    (h : settle stateHash envelope run action index result = .ok run') :
    Settled stateHash run run' := by
  obtain ⟨next, hnext, hrest⟩ := bind_eq_ok.mp h
  split at hrest
  · obtain rfl := Except.ok.inj hrest
    exact ⟨rfl, rfl, rfl, .inl rfl, .inr ⟨next, rfl⟩⟩
  · split at hrest
    · obtain rfl := Except.ok.inj hrest
      exact ⟨rfl, rfl, rfl, .inl rfl, .inr ⟨next, rfl⟩⟩
    · obtain rfl := Except.ok.inj hrest
      exact ⟨rfl, rfl, rfl, .inr (created_of_create hnext), .inr ⟨next, rfl⟩⟩

theorem settled_afterCall {index : Nat} {outcome : Option ActionExecutionResult} :
    Settled stateHash run (run.afterCall stateHash envelope action index outcome) := by
  cases outcome with
  | none => exact ⟨rfl, rfl, rfl, .inl rfl, .inl rfl⟩
  | some result =>
      dsimp only [ExplorationRun.afterCall]
      split
      · rename_i settled hsettled
        obtain ⟨hplanner, hplanned, hattempted, hstate, hstates⟩ := settled_settle hsettled
        exact ⟨hplanner, hplanned, hattempted, hstate, hstates⟩
      · exact ⟨rfl, rfl, rfl, .inl rfl, .inl rfl⟩

/-- A turn without a call keeps what the invariant counts. -/
structure Quiet (run run' : ExplorationRun) : Prop where
  visits : run'.planner.transitionVisits = run.planner.transitionVisits
  planned : run'.plannedActions = run.plannedActions
  attempted : run'.transitionsAttempted = run.transitionsAttempted
  state : run'.state = run.state
  states : run'.states = run.states

structure Called (stateHash : ExplorationStateInput → JsString) (catalog : List SafeAction)
    (envelope : ExplorationEnvelope) (budget : ExplorationBudget)
    (localeLe : JsString → JsString → Bool) (run run' : ExplorationRun) (action : SafeAction) :
    Prop where
  below : reachesLimit envelope budget run = false
  selected : (selection catalog envelope budget localeLe run).action = some action
  settled : ∃ booked, Settled stateHash booked run' ∧
    booked.planner = (selection catalog envelope budget localeLe run).planner.noteAttempt
      run.state.stateId action.actionId ∧
    booked.plannedActions = run.plannedActions ++ [action.actionId] ∧
    booked.transitionsAttempted = run.transitionsAttempted + 1 ∧
    booked.state = run.state ∧ booked.states = run.states

theorem next_cases {run' : ExplorationRun} {turn : Turn}
    (h : next stateHash catalog envelope budget localeLe run turn = some run') :
    turn.call = none ∧ Quiet run run' ∨ ∃ action, turn.call = some (run.state, action) ∧
        Called stateHash catalog envelope budget localeLe run run' action := by
  dsimp only [next] at h
  split_ifs at h with hgoes
  obtain ⟨-, hcall⟩ := hgoes
  obtain rfl := Option.some.inj h
  revert hcall
  unfold takeTurn
  split_ifs with hlimit
  · intro hcall
    exact .inl ⟨hcall, rfl, rfl, rfl, rfl, rfl⟩
  · simp only [Bool.or_eq_true, not_or, Bool.not_eq_true] at hlimit
    dsimp only
    rcases haction : (selection catalog envelope budget localeLe run).action with _ | action
    · intro hcall
      refine .inl ⟨hcall, ?_, rfl, rfl, rfl, rfl⟩
      change _ = (run.planner.noteState run.state.stateId).transitionVisits
      exact transitionVisits_select
    · intro hcall
      exact .inr ⟨action, hcall, hlimit.2, haction, _, settled_afterCall, rfl, rfl, rfl, rfl, rfl⟩

end Calls

def idCount (history : List Turn) (stateId actionId : JsString) : Nat :=
  (executions history).countP fun e => e.1.stateId = stateId && e.2.actionId = actionId

def executedIn (history : List Turn) : Set ExplorationStateInput :=
  {identity | ∃ e ∈ executions history, e.1.identity = identity}

variable {past : List Turn} {turn : Turn} {run run' : ExplorationRun} {action : SafeAction}

theorem executions_concat : executions (past ++ [turn]) = executions past ++ turn.call.toList := by
  rw [executions, List.filterMap_append, List.filterMap_cons, List.filterMap_nil]
  cases turn.call with
  | none => rfl
  | some e => rfl

theorem idCount_concat (hcall : turn.call = some e) {stateId : JsString} :
    idCount (past ++ [turn]) stateId actionId = idCount past stateId actionId +
      if e.1.stateId = stateId ∧ e.2.actionId = actionId then 1 else 0 := by
  rw [idCount, executions_concat, hcall, List.countP_append, Option.toList_some,
    List.countP_singleton, idCount]
  simp only [Bool.and_eq_true, decide_eq_true_eq]

theorem count_le_idCount :
    (executions history).count e ≤ idCount history e.1.stateId e.2.actionId := by
  rw [List.count]
  apply List.countP_mono_left
  intro other _ heq
  rw [eq_of_beq heq]
  simp

/-- What holds after a history: the counters of the run are those of its executions. -/
structure Explored (stateHash : ExplorationStateInput → JsString) (catalog : List SafeAction)
    (envelope : ExplorationEnvelope) (budget : ExplorationBudget) (history : List Turn)
    (run : ExplorationRun) : Prop where
  created : Created stateHash run.state
  planned : run.plannedActions.length = (executions history).length
  attempted : run.transitionsAttempted = (executions history).length
  visits : ∀ stateId actionId, '|' ∉ stateId →
    run.planner.transitionVisitCount stateId actionId = idCount history stateId actionId
  permitted : ∀ e ∈ executions history,
    Created stateHash e.1 ∧ MayRun catalog envelope e.1 e.2
  actions : Within (executions history).length
    (jsMin budget.maxActionsPerSequence envelope.maxActionsPerSequence)
  depth : Within (executions history).length (jsMin budget.maxDepth envelope.maxDepth)
  transitions : Within (executions history).length
    (jsMin budget.maxTransitions envelope.maxTransitions)
  pairs : ∀ stateId actionId, Within (idCount history stateId actionId) envelope.maxTransitionVisits
  states : run.states.length ≤ 1 ∨ Within run.states.length budget.maxStates

variable {first : ExplorationRun} {opening : Opening}

theorem explored_start (h : beginExploration stateHash catalog envelope opening = .ok first) :
    Explored stateHash catalog envelope budget [] first := by
  obtain ⟨planner, hplanner, hrest⟩ := bind_eq_ok.mp h
  obtain ⟨state, hstate, hfirst⟩ := bind_eq_ok.mp hrest
  obtain ⟨parsed, -, hempty⟩ := bind_eq_ok.mp hplanner
  obtain rfl := Except.ok.inj hempty
  obtain rfl := Except.ok.inj hfirst
  refine ⟨created_of_create hstate, rfl, rfl, ?_, ?_, within_zero _, within_zero _, within_zero _,
    fun _ _ => within_zero _, .inl (Nat.le_refl 1)⟩
  · intro stateId actionId _
    rfl
  · intro e hmem
    contradiction

theorem Explored.quiet
    (h : Explored stateHash catalog envelope budget past run) (hcall : turn.call = none)
    (hquiet : Quiet run run') :
    Explored stateHash catalog envelope budget (past ++ [turn]) run' := by
  have hsame : executions (past ++ [turn]) = executions past := by
    rw [executions_concat, hcall, Option.toList_none, List.append_nil]
  have hcount : idCount (past ++ [turn]) = idCount past := by
    funext stateId actionId
    rw [idCount, hsame, idCount]
  obtain ⟨hvisits, hplanned, hattempted, hstate, hstates⟩ := hquiet
  refine ⟨hstate ▸ h.created, ?_, ?_, ?_, ?_, ?_, ?_, ?_, ?_, ?_⟩
  · rw [hplanned, hsame, h.planned]
  · rw [hattempted, hsame, h.attempted]
  · intro stateId actionId hbar
    rw [transitionVisitCount_congr hvisits, hcount, h.visits _ _ hbar]
  · rw [hsame]
    exact h.permitted
  · rw [hsame]
    exact h.actions
  · rw [hsame]
    exact h.depth
  · rw [hsame]
    exact h.transitions
  · rw [hcount]
    exact h.pairs
  · rw [hstates]
    exact h.states

theorem length_mapSet_le {α β : Type} [DecidableEq α] {key : α} {value : β}
    {entries : List (α × β)} : (mapSet key value entries).length ≤ entries.length + 1 := by
  induction entries with
  | nil => exact Nat.le_refl 1
  | cons entry rest ih =>
      rw [mapSet]
      split_ifs
      · exact Nat.le_succ _
      · rw [List.length_cons, List.length_cons]
        omega

theorem Explored.least (h : Explored stateHash catalog envelope budget past run)
    (hids : (catalog.map SafeAction.actionId).Nodup) (hhex : ∀ input, Hexadecimal (stateHash input))
    (hselected : (selection catalog envelope budget localeLe run).action = some action) :
    MayRun catalog envelope run.state action ∧
      (JsNumber.ofNat (idCount past run.state.stateId action.actionId)).ge
        envelope.maxTransitionVisits = false ∧ ∀ other, MayRun catalog envelope run.state other →
        idCount past run.state.stateId action.actionId ≤
          idCount past run.state.stateId other.actionId := by
  have hbar := bar_not_mem_stateId hhex h.created
  obtain ⟨hcandidate, hfree, hleast⟩ := select_spec hselected
  obtain ⟨hstatic, hvisits, -⟩ := exclusionOf_eq_none.mp hfree
  simp only [transitionVisitCount_noteState, h.visits _ _ hbar] at hvisits hleast
  refine ⟨(mayRun_iff localeLe hids).mpr ⟨hcandidate, hstatic⟩, hvisits, ?_⟩
  intro other hother
  obtain ⟨hmem, hadmitted⟩ := (mayRun_iff localeLe hids).mp hother
  exact hleast other hmem hadmitted

theorem Explored.called (h : Explored stateHash catalog envelope budget past run)
    (hids : (catalog.map SafeAction.actionId).Nodup) (hhex : ∀ input, Hexadecimal (stateHash input))
    (hcall : turn.call = some (run.state, action))
    (hcalled : Called stateHash catalog envelope budget localeLe run run' action) :
    Explored stateHash catalog envelope budget (past ++ [turn]) run' := by
  have hbar := bar_not_mem_stateId hhex h.created
  obtain ⟨hbelow, hselected, booked, hsettled, hplanner, hplanned, hattempted, hstate, hstates⟩ :=
    hcalled
  obtain ⟨hmay, hvisits, -⟩ := h.least hids hhex hselected
  have hmore : (executions (past ++ [turn])).length = (executions past).length + 1 := by
    rw [executions_concat, hcall, List.length_append]
    rfl
  simp only [reachesLimit, Bool.or_eq_false_iff, h.planned, h.attempted] at hbelow
  obtain ⟨⟨⟨hactions, hdepth⟩, hmaxStates⟩, htransitions⟩ := hbelow
  refine ⟨?_, ?_, ?_, ?_, ?_, ?_, ?_, ?_, ?_, ?_⟩
  · rcases hsettled.state with hsame | hcreated
    · rw [hsame, hstate]
      exact h.created
    · exact hcreated
  · rw [hsettled.planned, hplanned, List.length_append, h.planned, hmore]
    rfl
  · rw [hsettled.attempted, hattempted, h.attempted, hmore]
  · intro stateId actionId hother
    rw [hsettled.planner, hplanner, transitionVisitCount_noteAttempt, selection,
      transitionVisitCount_congr transitionVisits_select, transitionVisitCount_noteState,
      h.visits _ _ hother, idCount_concat hcall]
    have hkey : visitKey stateId actionId = visitKey run.state.stateId action.actionId ↔
        run.state.stateId = stateId ∧ action.actionId = actionId := by
      constructor
      · intro heq
        obtain ⟨hid, hid'⟩ := visitKey_inj hother hbar heq
        exact ⟨hid.symm, hid'.symm⟩
      · rintro ⟨rfl, rfl⟩
        rfl
    simp only [hkey]
  · intro e hmem
    rw [executions_concat, hcall, Option.toList_some, List.mem_append, List.mem_singleton] at hmem
    rcases hmem with hmem | rfl
    · exact h.permitted e hmem
    · exact ⟨h.created, hmay⟩
  · rw [hmore]
    exact within_succ hactions
  · rw [hmore]
    exact within_succ hdepth
  · rw [hmore]
    exact within_succ htransitions
  · intro stateId actionId
    rw [idCount_concat hcall]
    split_ifs with hpair
    · obtain ⟨rfl, rfl⟩ := hpair
      exact within_succ hvisits
    · exact h.pairs stateId actionId
  · rcases hsettled.states with hsame | ⟨next, hadded⟩
    · rw [hsame, hstates]
      exact h.states
    · refine .inr ((within_succ hmaxStates).mono ?_)
      rw [hadded, hstates]
      exact length_mapSet_le

theorem explored_next
    (hids : (catalog.map SafeAction.actionId).Nodup) (hhex : ∀ input, Hexadecimal (stateHash input))
    (h : Explored stateHash catalog envelope budget past run)
    (hnext : next stateHash catalog envelope budget localeLe run turn = some run') :
    Explored stateHash catalog envelope budget (past ++ [turn]) run' := by
  rcases next_cases hnext with ⟨hcall, hquiet⟩ | ⟨action, hcall, hcalled⟩
  · exact h.quiet hcall hquiet
  · exact h.called hids hhex hcall hcalled

def Balanced (catalog : List SafeAction) (envelope : ExplorationEnvelope) (history : List Turn) :
    Prop :=
  ∀ state action other, MayRun catalog envelope state action → MayRun catalog envelope state other →
    (executions history).count (state, action) ≤ (executions history).count (state, other) + 1

section

variable (hids : (catalog.map SafeAction.actionId).Nodup)

include hids

theorem count_eq_idCount (h : Explored stateHash catalog envelope budget history run)
    (hcreated : Created stateHash state) (hlisted : action ∈ catalog)
    (hhash : ∀ identity ∈ executedIn history,
      stateHash identity = stateHash state.identity → identity = state.identity) :
    (executions history).count (state, action) = idCount history state.stateId action.actionId := by
  rw [List.count, idCount]
  apply List.countP_congr
  rintro ⟨s, a⟩ hmem
  obtain ⟨hs, ha⟩ := h.permitted _ hmem
  simp only [beq_iff_eq, Prod.mk.injEq, Bool.and_eq_true, decide_eq_true_eq]
  constructor
  · rintro ⟨rfl, rfl⟩
    exact ⟨rfl, rfl⟩
  · rintro ⟨hstateId, hactionId⟩
    refine ⟨?_, List.inj_on_of_nodup_map hids ha.listed hlisted hactionId⟩
    rw [hs, hcreated] at hstateId
    have hidentity : s.identity = state.identity :=
      hhash _ ⟨_, hmem, rfl⟩ (List.append_cancel_left hstateId)
    cases s with
    | mk identity stateId =>
        cases state with
        | mk identity' stateId' =>
            obtain rfl : identity = identity' := hidentity
            rw [Created] at hs hcreated
            rw [ExplorationState.mk.injEq]
            exact ⟨rfl, hs.trans hcreated.symm⟩

theorem balanced_next (hhex : ∀ input, Hexadecimal (stateHash input))
    (h : Explored stateHash catalog envelope budget past run)
    (hbalanced : Balanced catalog envelope past)
    (hnext : next stateHash catalog envelope budget localeLe run turn = some run')
    (hhash : Set.InjOn stateHash (executedIn (past ++ [turn]))) :
    Balanced catalog envelope (past ++ [turn]) := by
  rcases next_cases hnext with ⟨hcall, -⟩ | ⟨action, hcall, hcalled⟩
  · intro state action other haction hother
    rw [executions_concat, hcall, Option.toList_none, List.append_nil]
    exact hbalanced state action other haction hother
  · have hpast : ∀ identity ∈ executedIn past,
        stateHash identity = stateHash run.state.identity → identity = run.state.identity := by
      rintro identity ⟨e, hmem, rfl⟩
      apply hhash
      · refine ⟨e, ?_, rfl⟩
        rw [executions_concat]
        exact List.mem_append_left _ hmem
      · refine ⟨(run.state, action), ?_, rfl⟩
        rw [executions_concat, hcall]
        exact List.mem_append_right _ (List.mem_singleton.mpr rfl)
    obtain ⟨hmay, -, hleast⟩ := h.least hids hhex hcalled.selected
    intro state first second hfirst hsecond
    have hbefore := hbalanced state first second hfirst hsecond
    rw [executions_concat, hcall, Option.toList_some, List.count_append, List.count_append,
      List.count_singleton, List.count_singleton]
    by_cases hdrawn : (run.state, action) = (state, first)
    · -- the drawn action had the fewest executions
      obtain ⟨rfl, rfl⟩ := Prod.mk.inj hdrawn
      have hle := hleast second hsecond
      rw [← count_eq_idCount hids h h.created hmay.listed hpast,
        ← count_eq_idCount hids h h.created hsecond.listed hpast] at hle
      simp only [beq_self_eq_true, if_true]
      omega
    · simp only [beq_iff_eq, hdrawn, if_false]
      omega

theorem balanced_of_run (hhex : ∀ input, Hexadecimal (stateHash input))
    (hbegin : beginExploration stateHash catalog envelope opening = .ok first)
    {history : List Turn} {run : ExplorationRun}
    (hrun : Run (runExploration stateHash catalog envelope budget localeLe first) history run) :
    Explored stateHash catalog envelope budget history run ∧
      (Set.InjOn stateHash (executedIn history) → Balanced catalog envelope history) := by
  refine hrun.invariant (P := fun history run =>
    Explored stateHash catalog envelope budget history run ∧
      (Set.InjOn stateHash (executedIn history) → Balanced catalog envelope history)) ?_ ?_
  · refine ⟨explored_start hbegin, ?_⟩
    intro _ state action other _ _
    exact Nat.zero_le _
  · rintro past run turn run' ⟨hexplored, hbalanced⟩ hstep
    refine ⟨explored_next hids hhex hexplored hstep, ?_⟩
    intro hhash
    refine balanced_next hids hhex hexplored (hbalanced (hhash.mono ?_)) hstep hhash
    rintro identity ⟨e, hmem, hidentity⟩
    refine ⟨e, ?_, hidentity⟩
    rw [executions_concat]
    exact List.mem_append_left _ hmem

end

/-- The executions of a run are permitted, stay within every limit, rounded up to a whole
number, and are balanced in every state. -/
theorem executions_are_bounded_and_balanced (hids : (catalog.map SafeAction.actionId).Nodup)
    (hhex : ∀ input, Hexadecimal (stateHash input)) {opening : Opening} {first : ExplorationRun}
    (hbegin : beginExploration stateHash catalog envelope opening = .ok first)
    {history : List Turn} {run : ExplorationRun}
    (hrun : Run (runExploration stateHash catalog envelope budget localeLe first) history run)
    (hhash : Set.InjOn stateHash (executedIn history)) :
    (∀ e ∈ executions history, MayRun catalog envelope e.1 e.2) ∧ Within (executions history).length
        (jsMin budget.maxActionsPerSequence envelope.maxActionsPerSequence) ∧
      Within (executions history).length (jsMin budget.maxDepth envelope.maxDepth) ∧
      Within (executions history).length (jsMin budget.maxTransitions envelope.maxTransitions) ∧
      (∀ e, Within ((executions history).count e) envelope.maxTransitionVisits) ∧
      (run.states.length ≤ 1 ∨ Within run.states.length budget.maxStates) ∧
      Balanced catalog envelope history := by
  obtain ⟨hexplored, hbalanced⟩ := balanced_of_run hids hhex hbegin hrun
  refine ⟨fun e hmem => (hexplored.permitted e hmem).2, hexplored.actions, hexplored.depth,
    hexplored.transitions, ?_, hexplored.states, hbalanced hhash⟩
  intro e
  exact (hexplored.pairs _ _).mono count_le_idCount

instance countableChar : Countable Char := by
  apply Function.Injective.countable (f := Char.toNat)
  intro c d h
  exact Char.ext (UInt32.toNat_inj.mp h)

deriving instance Countable for JsNumber, SafeScalar, AuthStateClass, ExplorationStateInput

theorem exists_injective_hash : ∃ stateHash : ExplorationStateInput → JsString,
    Function.Injective stateHash ∧ ∀ input, Hexadecimal (stateHash input) := by
  obtain ⟨number, hnumber⟩ := Countable.exists_injective_nat ExplorationStateInput
  refine ⟨fun input => decimal (number input), decimal_injective.comp hnumber, ?_⟩
  intro input c hc
  exact .inl (isDigit_of_mem_decimal hc)

section Samples

def sampleAction (actionId : String) : SafeAction where
  actionId := actionId.toList
  preconditions := ⟨["/list".toList], none, none, none⟩
  semanticClass := .knownRead
  expectedRouteClass := "/list".toList
  expectedStructuralDelta := []
  expectedReadFamilies := []
  status := .approved

def openDetail : SafeAction := sampleAction "open"

def closeDetail : SafeAction := sampleAction "close"

def sampleCatalog : List SafeAction := [openDetail, closeDetail]

def sampleEnvelope : ExplorationEnvelope :=
  ⟨["/list".toList], ["open".toList, "close".toList], .posInfinity, .posInfinity, .posInfinity,
    .posInfinity, .posInfinity⟩

def sampleBudget (maxDepth : JsNumber) : ExplorationBudget :=
  ⟨.posInfinity, maxDepth, .posInfinity, .posInfinity, .posInfinity⟩

def sampleInput : ExplorationStateInput :=
  ⟨"ripple".toList, "list".toList, "/list".toList, [], [], ["open".toList], [], .authenticatedDev,
    []⟩

def sampleLe (s t : JsString) : Bool := decide (textLe s t)

def sampleState (stateHash : ExplorationStateInput → JsString) : ExplorationState :=
  ⟨sampleInput, "state_".toList ++ stateHash sampleInput⟩

def sampleOpening : Opening :=
  ⟨"0x0000000000000000".toList, .ofNat 0, sampleInput, fun action => action.actionId = "open".toList⟩

def sampleResult : ActionExecutionResult :=
  ⟨.completed, sampleInput, [], [], [], [], zeroSafety, .short, none⟩

theorem identity_sampleInput : stateIdentityInput sampleInput = .ok sampleInput := by
  rfl

theorem create_sampleInput : createExplorationState stateHash sampleInput =
    .ok (sampleState stateHash) := by
  rw [createExplorationState, identity_sampleInput]
  rfl

/-- A run that has come back to the sample state and goes on. -/
structure AtSample (stateHash : ExplorationStateInput → JsString) (count : Nat)
    (run : ExplorationRun) : Prop where
  state : run.state = sampleState stateHash
  running : run.status = .running
  started : run.started = .ofNat 0
  planned : run.plannedActions.length = count

variable (stateHash) in
theorem begin_sample : ∃ first,
    beginExploration stateHash sampleCatalog sampleEnvelope sampleOpening = .ok first ∧
      AtSample stateHash 0 first := by
  have hseed : SeededFrontierPlanner.ofSeed sampleOpening.seed = .ok ⟨⟨0, 0⟩, [], []⟩ := by rfl
  have hstate : observeState stateHash sampleCatalog sampleEnvelope sampleOpening.currentState
      sampleOpening.actionAvailable = .ok (sampleState stateHash) := create_sampleInput
  simp only [beginExploration, hseed, hstate, bind, Except.bind]
  exact ⟨_, rfl, rfl, rfl, rfl, rfl⟩

variable {depth : JsNumber}

theorem ge_posInfinity {n : Nat} : (JsNumber.ofNat n).ge .posInfinity = false := rfl

theorem candidates_sample :
    candidates sampleCatalog sampleEnvelope sampleLe = [closeDetail, openDetail] := by
  decide +kernel

variable {count index : Nat}

theorem select_sample {planner : SeededFrontierPlanner}
    (hdepth : (JsNumber.ofNat index).ge (jsMin depth .posInfinity) = false) :
    (select sampleCatalog sampleEnvelope (sampleBudget depth) sampleLe planner
      (sampleState stateHash) index).action = some openDetail := by
  have hclosed : exclusionOf sampleEnvelope (sampleBudget depth) planner (sampleState stateHash)
      index closeDetail = some .runtimeControlAbsent := rfl
  have hopen : exclusionOf sampleEnvelope (sampleBudget depth) planner (sampleState stateHash)
      index openDetail = none := by
    refine exclusionOf_eq_none.mpr ⟨rfl, ge_posInfinity, rfl, ?_⟩
    rw [Bool.or_eq_false_iff]
    exact ⟨ge_posInfinity, hdepth⟩
  have heligible : eligibleActions sampleCatalog sampleEnvelope (sampleBudget depth) sampleLe
      planner (sampleState stateHash) index = [openDetail] := by
    rw [eligibleActions, candidates_sample, List.filter_cons, List.filter_cons, hclosed, hopen]
    rfl
  have hfrontier : frontierOf planner (sampleState stateHash) [openDetail] = [openDetail] := by
    simp [frontierOf]
  dsimp only [select]
  rw [heligible, hfrontier]
  simp [draw, SplitMix64.nextInt, Nat.mod_one]

theorem afterCall_sample {booked : ExplorationRun}
    (hstarted : booked.started = .ofNat 0) (hplanned : booked.plannedActions.length = count) :
    AtSample stateHash count
      (booked.afterCall stateHash sampleEnvelope openDetail index (some sampleResult)) := by
  have hsettle (observed : ExplorationRun) :
      ∃ settled, settle stateHash sampleEnvelope observed openDetail index sampleResult =
          .ok settled ∧ settled.state = sampleState stateHash ∧ settled.status = .running ∧
        settled.started = observed.started ∧ settled.plannedActions = observed.plannedActions := by
    refine ⟨_, (congrArg (· >>= _) create_sampleInput).trans rfl, rfl, rfl, rfl, rfl⟩
  obtain ⟨settled, hsettled, hstate, hrunning, hstart, hplan⟩ := hsettle
    { booked with observedActions := booked.observedActions ++ [openDetail.actionId] }
  simp only [ExplorationRun.afterCall, hsettled]
  exact ⟨hstate, hrunning, hstart.trans hstarted, hplan ▸ hplanned⟩

def sampleTurn (stateHash : ExplorationStateInput → JsString) : Turn :=
  ⟨.ofNat 0, some (sampleState stateHash, openDetail), some sampleResult⟩

theorem next_sample_call {run : ExplorationRun} (h : AtSample stateHash count run)
    (hdepth : (JsNumber.ofNat count).ge (jsMin depth .posInfinity) = false)
    (outcome : Option ActionExecutionResult) :
    ∃ (booked : ExplorationRun) (index : Nat), booked.started = .ofNat 0 ∧
      booked.plannedActions.length = count + 1 ∧ booked.safety = run.safety ∧
      next stateHash sampleCatalog sampleEnvelope (sampleBudget depth) sampleLe run
        ⟨.ofNat 0, some (sampleState stateHash, openDetail), outcome⟩ =
          some (booked.afterCall stateHash sampleEnvelope openDetail index outcome) := by
  obtain ⟨hstate, hrunning, hstarted, hplanned⟩ := h
  have hclock : isExpired (sampleBudget depth) run (.ofNat 0) = false := by
    rw [isExpired, hstarted]
    change ((JsNumber.ofNat 0).sub (.ofNat 0)).ge (jsMin .posInfinity (.ofNat 120000)) = false
    decide +kernel
  have hlimit : reachesLimit sampleEnvelope (sampleBudget depth) run = false := by
    rw [← hplanned] at hdepth
    simp only [reachesLimit, Bool.or_eq_false_iff]
    exact ⟨⟨⟨ge_posInfinity, hdepth⟩, ge_posInfinity⟩, ge_posInfinity⟩
  have hselected : (selection sampleCatalog sampleEnvelope (sampleBudget depth) sampleLe run).action =
      some openDetail := by
    rw [selection, hstate]
    exact select_sample (hplanned ▸ hdepth)
  simp only [next, takeTurn, hclock, hlimit, hselected, hrunning, hstate, Bool.or_self,
    Bool.false_eq_true, if_false, and_self, if_true]
  refine ⟨_, _, ?_, ?_, ?_, rfl⟩
  · exact hstarted
  · rw [ExplorationRun.call, List.length_append, hplanned]
    rfl
  · rfl

theorem next_sample {run : ExplorationRun} (h : AtSample stateHash count run)
    (hdepth : (JsNumber.ofNat count).ge (jsMin depth .posInfinity) = false) :
    ∃ run', next stateHash sampleCatalog sampleEnvelope (sampleBudget depth) sampleLe run
        (sampleTurn stateHash) = some run' ∧ AtSample stateHash (count + 1) run' := by
  obtain ⟨booked, index, hstarted, hplanned, -, hnext⟩ :=
    next_sample_call h hdepth (some sampleResult)
  exact ⟨_, hnext, afterCall_sample hstarted hplanned⟩

variable (stateHash) in
theorem exists_sample_run (count : Nat)
    (hdepth : ∀ n < count, (JsNumber.ofNat n).ge (jsMin depth .posInfinity) = false) :
    ∃ first run, beginExploration stateHash sampleCatalog sampleEnvelope sampleOpening = .ok first ∧
      Run (runExploration stateHash sampleCatalog sampleEnvelope (sampleBudget depth) sampleLe first)
        (List.replicate count (sampleTurn stateHash)) run ∧ AtSample stateHash count run := by
  obtain ⟨first, hbegin, hfirst⟩ := begin_sample stateHash
  have hsteps (n : Nat) (hn : n ≤ count) : ∃ run,
      Run (runExploration stateHash sampleCatalog sampleEnvelope (sampleBudget depth) sampleLe first)
        (List.replicate n (sampleTurn stateHash)) run ∧ AtSample stateHash n run := by
    induction n with
    | zero => exact ⟨first, .start, hfirst⟩
    | succ n ih =>
        obtain ⟨run, hrun, hat⟩ := ih (Nat.le_of_lt hn)
        obtain ⟨run', hnext, hat'⟩ := next_sample hat (hdepth n hn)
        rw [List.replicate_succ']
        exact ⟨run', hrun.step hnext, hat'⟩
  obtain ⟨run, hrun, hat⟩ := hsteps count (Nat.le_refl count)
  exact ⟨first, run, hbegin, hrun, hat⟩

theorem below_posInfinity (n : Nat) :
    (JsNumber.ofNat n).ge (jsMin .posInfinity .posInfinity) = false := rfl

theorem two_executions_balanced : ∃ history,
    (executions history).length = 2 ∧ Balanced sampleCatalog sampleEnvelope history ∧
      ∀ e ∈ executions history, MayRun sampleCatalog sampleEnvelope e.1 e.2 := by
  obtain ⟨stateHash, hinjective, hhex⟩ := exists_injective_hash
  obtain ⟨first, run, hbegin, hrun, -⟩ := exists_sample_run stateHash 2
    fun n _ => below_posInfinity n
  obtain ⟨hpermitted, -, -, -, -, -, hbalanced⟩ :=
    executions_are_bounded_and_balanced (by decide) hhex hbegin hrun hinjective.injOn
  exact ⟨_, rfl, hbalanced, hpermitted⟩

/-- Under an injective hash, an action that is not available stays behind one that is, though
the preconditions of both hold; and half an action is rounded up to one. -/
theorem unavailable_stays_behind_and_half_rounds_up :
    ∃ stateHash : ExplorationStateInput → JsString,
    Function.Injective stateHash ∧ (∀ input, Hexadecimal (stateHash input)) ∧
      (sampleCatalog.map SafeAction.actionId).Nodup ∧ (∃ first history run,
        beginExploration stateHash sampleCatalog sampleEnvelope sampleOpening = .ok first ∧
          Run (runExploration stateHash sampleCatalog sampleEnvelope (sampleBudget .posInfinity)
            sampleLe first) history run ∧ preconditionsHold sampleInput openDetail = true ∧
          preconditionsHold sampleInput closeDetail = true ∧
          (executions history).count (sampleState stateHash, openDetail) = 2 ∧
          (executions history).count (sampleState stateHash, closeDetail) = 0) ∧
      ∃ first history run,
        beginExploration stateHash sampleCatalog sampleEnvelope sampleOpening = .ok first ∧
          Run (runExploration stateHash sampleCatalog sampleEnvelope
            (sampleBudget (.finite (1 / 2))) sampleLe first) history run ∧
          ¬((executions history).length : ℚ) ≤ 1 / 2 := by
  obtain ⟨stateHash, hinjective, hhex⟩ := exists_injective_hash
  refine ⟨stateHash, hinjective, hhex, by decide, ?_, ?_⟩
  · obtain ⟨first, run, hbegin, hrun, -⟩ := exists_sample_run stateHash 2
      fun n _ => below_posInfinity n
    refine ⟨first, _, run, hbegin, hrun, by decide +kernel, by decide +kernel, ?_, ?_⟩
    · simp [executions, List.replicate, sampleTurn]
    · have hne : openDetail ≠ closeDetail := by decide
      simp [executions, List.replicate, sampleTurn, hne]
  · have hhalf : ∀ n < 1, (JsNumber.ofNat n).ge (jsMin (.finite (1 / 2)) .posInfinity) = false := by
      intro n hn
      obtain rfl : n = 0 := by omega
      decide +kernel
    obtain ⟨first, run, hbegin, hrun, -⟩ := exists_sample_run stateHash 1 hhalf
    refine ⟨first, _, run, hbegin, hrun, ?_⟩
    simp [executions, List.replicate, sampleTurn]
    norm_num

end Samples

end NightWatch.Exploration.FrontierRuns
