import NightWatch.Exploration.FrontierRuns

/-!
The safety account of an exploration: what every executed action observed is summed up, and
an action that observed anything is the last one and no success. The loop leaves out what an
action observed that turns out not to be available.
-/

namespace NightWatch.Exploration.SafetyRuns

open Lib.JsText Lib.JsData Lib.Machine Lib.Guard Exploration.States Exploration.Engine
  Exploration.FrontierRuns

inductive SafetyField where
  | productionAttempts
  | proxyViolations
  | unknownDestinations
  | unknownApprovals
  | knownMutations
  | actionCausedUnknown
  | dbQueries
  deriving DecidableEq

def field (safety : SafetyVector) : SafetyField → JsNumber
  | .productionAttempts => safety.productionAttempts
  | .proxyViolations => safety.proxyViolations
  | .unknownDestinations => safety.unknownDestinations
  | .unknownApprovals => safety.unknownApprovals
  | .knownMutations => safety.knownMutations
  | .actionCausedUnknown => safety.actionCausedUnknown
  | .dbQueries => safety.dbQueries

@[simp] theorem field_addSafety (a b : SafetyVector) (f : SafetyField) :
    field (addSafety a b) f = (field a f).add (field b f) := by
  cases f <;> rfl

@[simp] theorem field_zeroSafety (f : SafetyField) : field zeroSafety f = .ofNat 0 := by
  cases f <;> rfl

def requestCount (request : RuntimeNetworkObservation) : SafetyField → Nat
  | .knownMutations =>
      if request.disposition = .knownMutation ∨ request.classification = .knownMutation then 1
      else 0
  | .actionCausedUnknown => if request.disposition = .actionCausedUnknown then 1 else 0
  | .productionAttempts => if request.hostClass = .production then 1 else 0
  | .unknownDestinations => if request.hostClass = .unknown then 1 else 0
  | .proxyViolations | .unknownApprovals | .dbQueries => 0

def requestCounts (requests : List RuntimeNetworkObservation) (f : SafetyField) : Nat :=
  (requests.map (requestCount · f)).sum

def ownCount : JsNumber → Nat
  | .finite q => q.num.toNat
  | _ => 0

def contribution (result : ActionExecutionResult) (f : SafetyField) : Nat :=
  ownCount (field result.safety f) + requestCounts result.semanticRequestDelta f

/-- The counters of the vector are counts, and adding the requests stays exact. -/
structure Counted (result : ActionExecutionResult) : Prop where
  own : ∀ f, ∃ n : Nat, field result.safety f = .ofNat n
  exact : ∀ f, contribution result f < 2 ^ 53

theorem ownCount_ofNat (n : Nat) : ownCount (.ofNat n) = n := by
  simp [ownCount, JsNumber.ofNat]

variable {result : ActionExecutionResult} {safety : SafetyVector} {f : SafetyField} {n : Nat}

theorem Counted.field_eq (h : Counted result)
    (f : SafetyField) : field result.safety f = .ofNat (ownCount (field result.safety f)) := by
  obtain ⟨n, hn⟩ := h.own f
  rw [hn, ownCount_ofNat]

def unitSafety : SafetyField → SafetyVector
  | .productionAttempts => { zeroSafety with productionAttempts := .ofNat 1 }
  | .proxyViolations => { zeroSafety with proxyViolations := .ofNat 1 }
  | .unknownDestinations => { zeroSafety with unknownDestinations := .ofNat 1 }
  | .unknownApprovals => { zeroSafety with unknownApprovals := .ofNat 1 }
  | .knownMutations => { zeroSafety with knownMutations := .ofNat 1 }
  | .actionCausedUnknown => { zeroSafety with actionCausedUnknown := .ofNat 1 }
  | .dbQueries => { zeroSafety with dbQueries := .ofNat 1 }

theorem field_unitSafety (g f : SafetyField) :
    field (unitSafety g) f = .ofNat (if f = g then 1 else 0) := by
  cases g <;> cases f <;> rfl

def oneIf (condition : Bool) (g f : SafetyField) : Nat :=
  if condition = true ∧ f = g then 1 else 0

theorem field_addSafetyIf {condition : Bool} {g : SafetyField}
    (hsafety : field safety f = .ofNat n) (hbound : n + oneIf condition g f < 2 ^ 53) :
    field (addSafetyIf condition safety (unitSafety g)) f = .ofNat (n + oneIf condition g f) := by
  cases condition with
  | false => simpa [addSafetyIf, oneIf] using hsafety
  | true =>
      have hone : oneIf true g f = if f = g then 1 else 0 := by simp [oneIf]
      rw [hone] at hbound ⊢
      rw [addSafetyIf, if_pos rfl, field_addSafety, hsafety, field_unitSafety]
      exact add_ofNat hbound

theorem requestCount_eq (request : RuntimeNetworkObservation) (f : SafetyField) :
    requestCount request f =
      oneIf (request.disposition = .knownMutation || request.classification = .knownMutation)
          .knownMutations f +
        oneIf (request.disposition = .actionCausedUnknown) .actionCausedUnknown f +
        oneIf (request.hostClass = .production) .productionAttempts f +
        oneIf (request.hostClass = .unknown) .unknownDestinations f := by
  cases f <;> simp [requestCount, oneIf]

theorem field_addRequest {request : RuntimeNetworkObservation} (hsafety : field safety f = .ofNat n)
    (hbound : n + requestCount request f < 2 ^ 53) :
    field (addRequest safety request) f = .ofNat (n + requestCount request f) := by
  rw [requestCount_eq, ← Nat.add_assoc, ← Nat.add_assoc, ← Nat.add_assoc] at hbound ⊢
  refine field_addSafetyIf (g := .unknownDestinations) ?_ hbound
  refine field_addSafetyIf (g := .productionAttempts) ?_ (by omega)
  refine field_addSafetyIf (g := .actionCausedUnknown) ?_ (by omega)
  exact field_addSafetyIf (g := .knownMutations) hsafety (by omega)

theorem field_foldl_addRequest {requests : List RuntimeNetworkObservation}
    (hsafety : field safety f = .ofNat n) (hbound : n + requestCounts requests f < 2 ^ 53) :
    field (requests.foldl addRequest safety) f = .ofNat (n + requestCounts requests f) := by
  induction requests generalizing safety n with
  | nil => exact hsafety
  | cons request rest ih =>
      have hsplit : requestCounts (request :: rest) f =
          requestCount request f + requestCounts rest f := rfl
      rw [hsplit, ← Nat.add_assoc] at hbound ⊢
      exact ih (field_addRequest hsafety (by omega)) hbound

theorem field_safetyFromResult (h : Counted result)
    (f : SafetyField) : field (safetyFromResult result) f = .ofNat (contribution result f) :=
  field_foldl_addRequest (h.field_eq f) (h.exact f)

theorem isPositive_ofNat : isPositive (.ofNat n) = true ↔ 0 < n := by
  simp [isPositive, JsNumber.ofNat, JsNumber.lt]

theorem contribution_eq_zero {unknown escape : Bool} (h : Counted result)
    (hnone : terminationForSafety (safetyFromResult result) unknown escape = none)
    (f : SafetyField) : contribution result f = 0 := by
  have hpositive (f : SafetyField) :
      isPositive (field (safetyFromResult result) f) = true ↔ 0 < contribution result f := by
    rw [field_safetyFromResult h, isPositive_ofNat]
  have hfields : ∀ f, isPositive (field (safetyFromResult result) f) ≠ true := by
    intro f hf
    unfold terminationForSafety at hnone
    split_ifs at hnone with hblock hmutation hhost hunknown
    simp only [Bool.or_eq_true, not_or] at hblock hunknown
    obtain ⟨⟨⟨hproduction, hproxy⟩, happroval⟩, hdb⟩ := hblock
    cases f with
    | productionAttempts => exact hproduction hf
    | proxyViolations => exact hproxy hf
    | unknownDestinations => exact hhost hf
    | unknownApprovals => exact happroval hf
    | knownMutations => exact hmutation hf
    | actionCausedUnknown => exact hunknown.2 hf
    | dbQueries => exact hdb hf
  exact Nat.eq_zero_of_not_pos fun hpos => hfields f ((hpositive f).mpr hpos)

section Accounts

variable {stateHash : ExplorationStateInput → JsString} {catalog : List SafeAction}
  {envelope : ExplorationEnvelope} {budget : ExplorationBudget}
  {localeLe : JsString → JsString → Bool}

def turnResult (turn : Turn) : Option ActionExecutionResult := turn.call.bind fun _ => turn.outcome

def results (history : List Turn) : List ActionExecutionResult := history.filterMap turnResult

def total (history : List Turn) (f : SafetyField) : Nat :=
  ((results history).map (contribution · f)).sum

/-- The terminations that `isSuccessfulPhase4Termination` accepts. -/
def isSuccessfulPhase4Termination (reason : TerminationReason) : Bool :=
  reason ∈ [TerminationReason.budgetExhausted, .safeFrontierExhausted, .modelTerminalState]

/-- A result that the account of the loop is right about: its counters are counts, and an
action that turns out not to be available has contributed nothing. -/
structure Accountable (result : ActionExecutionResult) : Prop where
  counted : Counted result
  unavailable : result.status = .actionNotAvailableAtRuntime → ∀ f, contribution result f = 0

/-- The evidence is right about the safety of the executed actions, and one that contributed
anything is the last one and no success. -/
structure SafetyAccounted (history : List Turn) (run : ExplorationRun)
    (reason : TerminationReason) : Prop where
  summed : ∀ f, field run.safety f = .ofNat (total history f)
  last : ∀ past result rest, results history = past ++ result :: rest →
    (∃ f, contribution result f ≠ 0) → rest = [] ∧ isSuccessfulPhase4Termination reason = false

/-- Nothing was observed. -/
def Clean (history : List Turn) : Prop :=
  ∀ result ∈ results history, ∀ f, contribution result f = 0

/-- What holds after every turn: as long as the loop runs nothing was observed. -/
structure Accounting (history : List Turn) (run : ExplorationRun) : Prop where
  clean : run.status = .running → Clean history
  running : run.status = .running → ∀ f, field run.safety f = .ofNat 0
  returned : ∀ reason, run.status = .returned reason → SafetyAccounted history run reason

variable {history : List Turn} {first run' : ExplorationRun} {opening : Opening}

theorem total_of_clean (h : Clean history) (f : SafetyField) : total history f = 0 := by
  apply List.sum_eq_zero
  intro n hn
  obtain ⟨result, hmem, rfl⟩ := List.mem_map.mp hn
  exact h result hmem f

variable {run : ExplorationRun} {reason : TerminationReason} {past : List Turn} {turn : Turn}
  {result : ActionExecutionResult} {action : SafeAction}

theorem safetyAccounted_of_clean (hclean : Clean history)
    (hsafety : ∀ f, field run.safety f = .ofNat 0) : SafetyAccounted history run reason where
  summed := by
    intro f
    rw [hsafety f, total_of_clean hclean]
  last := by
    rintro past result rest hresults ⟨f, hf⟩
    refine absurd (hclean result ?_ f) hf
    rw [hresults]
    exact List.mem_append_right _ List.mem_cons_self

theorem results_concat : results (past ++ [turn]) = results past ++ (turnResult turn).toList := by
  rw [results, List.filterMap_append, List.filterMap_cons, List.filterMap_nil]
  cases turnResult turn with
  | none => rfl
  | some result => rfl

theorem clean_concat (hclean : Clean past) (hresult : turnResult turn = some result)
    (hzero : ∀ f, contribution result f = 0) : Clean (past ++ [turn]) := by
  intro r hr
  rw [results_concat, hresult, List.mem_append] at hr
  rcases hr with hr | hr
  · exact hclean r hr
  · obtain rfl := List.mem_singleton.mp hr
    exact hzero

theorem safetyAccounted_of_last (hclean : Clean past) (hresult : turnResult turn = some result)
    (hsafety : ∀ f, field run.safety f = .ofNat (contribution result f))
    (hreason : isSuccessfulPhase4Termination reason = false) :
    SafetyAccounted (past ++ [turn]) run reason where
  summed := by
    intro f
    have hsum : total (past ++ [turn]) f = total past f + contribution result f := by
      simp [total, results_concat, hresult]
    rw [hsum, total_of_clean hclean, Nat.zero_add]
    exact hsafety f
  last := by
    rintro before r rest hresults ⟨f, hf⟩
    refine ⟨?_, hreason⟩
    rw [results_concat, hresult, Option.toList_some] at hresults
    rcases List.append_eq_append_iff.mp hresults with ⟨more, hbefore, hrest⟩ | ⟨more, hpast, hrest⟩
    · cases more with
      | nil =>
          exact (List.cons.inj hrest).2.symm
      | cons x xs =>
          have hlength := congrArg List.length hrest
          simp at hlength
    · cases more with
      | nil => exact (List.cons.inj hrest).2
      | cons x xs =>
          obtain ⟨rfl, -⟩ := List.cons.inj hrest
          refine absurd (hclean r ?_ f) hf
          rw [hpast]
          exact List.mem_append_right _ List.mem_cons_self

theorem terminationForSafety_not_success {safety : SafetyVector} {unknown escape : Bool}
    (h : terminationForSafety safety unknown escape = some reason) :
    isSuccessfulPhase4Termination reason = false := by
  unfold terminationForSafety at h
  split_ifs at h <;> obtain rfl := Option.some.inj h <;> rfl

theorem stopReason_not_success (h : stopReason envelope action result = some reason) :
    isSuccessfulPhase4Termination reason = false := by
  dsimp only [stopReason] at h
  split at h
  · rename_i stop hstop
    obtain rfl := Option.some.inj h
    exact terminationForSafety_not_success hstop
  · split_ifs at h <;> obtain rfl := Option.some.inj h <;> rfl

theorem terminationForSafety_of_stopReason (h : stopReason envelope action result = none) :
    ∃ unknown escape, terminationForSafety (safetyFromResult result) unknown escape = none := by
  dsimp only [stopReason] at h
  split at h
  · contradiction
  · rename_i hnone
    exact ⟨_, _, hnone⟩

theorem accounting_settle {index : Nat}
    (hclean : Clean past) (hsafety : ∀ f, field run.safety f = .ofNat 0)
    (hresult : turnResult turn = some result) (haccountable : Accountable result)
    (h : settle stateHash envelope run action index result = .ok run') :
    Accounting (past ++ [turn]) run' := by
  have hadded (f : SafetyField) :
      field (addSafety run.safety (safetyFromResult result)) f =
        .ofNat (contribution result f) := by
    rw [field_addSafety, hsafety, field_safetyFromResult haccountable.counted,
      add_ofNat (by rw [Nat.zero_add]; exact haccountable.counted.exact f), Nat.zero_add]
  obtain ⟨next, -, hrest⟩ := bind_eq_ok.mp h
  split at hrest
  · rename_i hstatus
    obtain rfl := Except.ok.inj hrest
    have hzero := haccountable.unavailable hstatus
    refine ⟨nofun, nofun, ?_⟩
    intro reason _
    exact safetyAccounted_of_clean (clean_concat hclean hresult hzero) hsafety
  · split at hrest
    · rename_i reason hstop
      obtain rfl := Except.ok.inj hrest
      refine ⟨nofun, nofun, ?_⟩
      intro reason' hreturned
      obtain rfl := Status.returned.inj hreturned
      exact safetyAccounted_of_last hclean hresult hadded (stopReason_not_success hstop)
    · rename_i hstop
      obtain rfl := Except.ok.inj hrest
      obtain ⟨unknown, escape, hnone⟩ := terminationForSafety_of_stopReason hstop
      have hzero := contribution_eq_zero haccountable.counted hnone
      have hcleaned := clean_concat hclean hresult hzero
      have hsafe : ∀ f, field (addSafety run.safety (safetyFromResult result)) f = .ofNat 0 := by
        intro f
        rw [hadded f, hzero f]
      exact ⟨fun _ => hcleaned, fun _ => hsafe, fun _ _ => safetyAccounted_of_clean hcleaned hsafe⟩

theorem accounting_next
    (h : Accounting past run) (hfits : ∀ result, turnResult turn = some result → Accountable result)
    (hnext : next stateHash catalog envelope budget localeLe run turn = some run') :
    Accounting (past ++ [turn]) run' := by
  dsimp only [next] at hnext
  split_ifs at hnext with hgoes
  obtain ⟨hrunning, hcall⟩ := hgoes
  obtain rfl := Option.some.inj hnext
  have hclean := h.clean hrunning
  have hsafety := h.running hrunning
  have hquiet (hnone : turn.call = none) : Clean (past ++ [turn]) := by
    intro result hmem
    rw [results_concat, turnResult, hnone] at hmem
    exact hclean result (by simpa using hmem)
  revert hcall
  unfold takeTurn
  split_ifs with hlimit
  · intro hcall
    exact ⟨nofun, nofun, fun _ _ => safetyAccounted_of_clean (hquiet hcall) hsafety⟩
  · dsimp only
    rcases (selection catalog envelope budget localeLe run).action with _ | action
    · intro hcall
      exact ⟨nofun, nofun, fun _ _ => safetyAccounted_of_clean (hquiet hcall) hsafety⟩
    · intro hcall
      cases houtcome : turn.outcome with
      | none => exact ⟨nofun, nofun, nofun⟩
      | some result =>
          have hresult : turnResult turn = some result := by
            rw [turnResult, hcall, houtcome]
            rfl
          dsimp only [ExplorationRun.afterCall]
          split
          · rename_i settled hsettled
            have hbooked : ∀ f, field run.safety f = .ofNat 0 := hsafety
            refine accounting_settle hclean ?_ hresult (hfits result hresult) hsettled
            exact hbooked
          · exact ⟨nofun, nofun, nofun⟩

theorem safety_begin (h : beginExploration stateHash catalog envelope opening = .ok first) :
    first.safety = zeroSafety := by
  obtain ⟨planner, -, hrest⟩ := bind_eq_ok.mp h
  obtain ⟨state, -, hfirst⟩ := bind_eq_ok.mp hrest
  obtain rfl := Except.ok.inj hfirst
  rfl

theorem accounting_start (h : beginExploration stateHash catalog envelope opening = .ok first) :
    Accounting [] first := by
  have hclean : Clean [] := fun _ hmem => absurd hmem List.not_mem_nil
  have hsafety : ∀ f, field first.safety f = .ofNat 0 := by
    intro f
    rw [safety_begin h, field_zeroSafety]
  exact ⟨fun _ => hclean, fun _ => hsafety, fun _ _ => safetyAccounted_of_clean hclean hsafety⟩

/-- In every exploration whose results the account is right about, the evidence sums up what
the executed actions observed, and an action that observed anything ends it without success. -/
theorem safety_is_accounted {opening : Opening} {first run : ExplorationRun}
    {history : List Turn} {reason : TerminationReason}
    (hbegin : beginExploration stateHash catalog envelope opening = .ok first)
    (hrun : Run (runExploration stateHash catalog envelope budget localeLe first) history run)
    (hfits : ∀ result ∈ results history, Accountable result)
    (hreturned : run.status = .returned reason) : SafetyAccounted history run reason := by
  have haccounting : (∀ result ∈ results history, Accountable result) → Accounting history run := by
    refine hrun.invariant (P := fun history run =>
      (∀ result ∈ results history, Accountable result) → Accounting history run) ?_ ?_
    · intro _
      exact accounting_start hbegin
    · intro past turn run run' ih hnext hfits
      rw [results_concat] at hfits
      apply accounting_next (ih fun r hr => hfits r (List.mem_append_left _ hr)) _ hnext
      intro result hresult
      apply hfits result
      rw [hresult]
      exact List.mem_append_right _ List.mem_cons_self
  exact (haccounting hfits).returned reason hreturned

end Accounts

section Samples

def sampleOutcome (status : ExecutionStatus) (mutations : Nat) : ActionExecutionResult :=
  { sampleResult with
    status
    safety := { zeroSafety with knownMutations := .ofNat mutations } }

def outcomeTurn (stateHash : ExplorationStateInput → JsString)
    (result : ActionExecutionResult) : Turn :=
  ⟨.ofNat 0, some (sampleState stateHash, openDetail), some result⟩

variable (stateHash : ExplorationStateInput → JsString)

theorem exists_outcome_run (result : ActionExecutionResult) :
    ∃ (first booked : ExplorationRun) (index : Nat),
      beginExploration stateHash sampleCatalog sampleEnvelope sampleOpening = .ok first ∧
      booked.safety = zeroSafety ∧
      Run (runExploration stateHash sampleCatalog sampleEnvelope (sampleBudget .posInfinity)
        sampleLe first) [outcomeTurn stateHash result]
        (booked.afterCall stateHash sampleEnvelope openDetail index (some result)) := by
  obtain ⟨first, hbegin, hfirst⟩ := begin_sample stateHash
  obtain ⟨booked, index, -, -, hsafety, hnext⟩ :=
    next_sample_call hfirst (below_posInfinity 0) (some result)
  exact ⟨first, booked, index, hbegin, hsafety.trans (safety_begin hbegin), Run.start.step hnext⟩

theorem afterCall_unavailable (booked : ExplorationRun) (index mutations : Nat) :
    ∃ run, booked.afterCall stateHash sampleEnvelope openDetail index
        (some (sampleOutcome .actionNotAvailableAtRuntime mutations)) = run ∧
      run.safety = booked.safety ∧ run.status = .returned .runtimeFailure := by
  have hcreate : createExplorationState stateHash
      (sampleOutcome .actionNotAvailableAtRuntime mutations).nextState =
        .ok (sampleState stateHash) := create_sampleInput
  refine ⟨_, rfl, ?_, ?_⟩
  · simp only [ExplorationRun.afterCall, settle, hcreate]
    rfl
  · simp only [ExplorationRun.afterCall, settle, hcreate]
    rfl

theorem accountable_sample : Accountable (sampleOutcome .actionNotAvailableAtRuntime 0) := by
  have hzero (f : SafetyField) :
      contribution (sampleOutcome .actionNotAvailableAtRuntime 0) f = 0 := by
    cases f <;> simp [contribution, sampleOutcome, field, zeroSafety, ownCount_ofNat,
      requestCounts, sampleResult]
  refine ⟨⟨?_, ?_⟩, fun _ => hzero⟩
  · intro f
    exact ⟨0, by cases f <;> rfl⟩
  · intro f
    rw [hzero f]
    norm_num

/-- A sample exploration whose one action is not available and observes nothing. -/
theorem safety_is_accounted_sample : ∃ stateHash : ExplorationStateInput → JsString,
    ∃ first history run reason,
      beginExploration stateHash sampleCatalog sampleEnvelope sampleOpening = .ok first ∧
      Run (runExploration stateHash sampleCatalog sampleEnvelope (sampleBudget .posInfinity)
        sampleLe first) history run ∧ history ≠ [] ∧ SafetyAccounted history run reason := by
  refine ⟨fun _ => [], ?_⟩
  obtain ⟨first, booked, index, hbegin, -, hrun⟩ := exists_outcome_run (fun _ => [])
    (sampleOutcome .actionNotAvailableAtRuntime 0)
  obtain ⟨run, hafter, -, hreturned⟩ := afterCall_unavailable (fun _ => []) booked index 0
  rw [hafter] at hrun
  refine ⟨first, _, run, .runtimeFailure, hbegin, hrun, List.cons_ne_nil _ _, ?_⟩
  refine safety_is_accounted hbegin hrun ?_ hreturned
  intro result hmem
  obtain rfl := List.mem_singleton.mp hmem
  exact accountable_sample

/-- A mutation observed by an action that is not available is missing from the evidence. -/
theorem unavailable_mutation_unaccounted : ∃ stateHash : ExplorationStateInput → JsString,
    ∃ first history run,
      beginExploration stateHash sampleCatalog sampleEnvelope sampleOpening = .ok first ∧
      Run (runExploration stateHash sampleCatalog sampleEnvelope (sampleBudget .posInfinity)
        sampleLe first) history run ∧ (∀ result ∈ results history, Counted result) ∧
      run.status = .returned .runtimeFailure ∧ ¬SafetyAccounted history run .runtimeFailure := by
  refine ⟨fun _ => [], ?_⟩
  obtain ⟨first, booked, index, hbegin, hsafety, hrun⟩ := exists_outcome_run (fun _ => [])
    (sampleOutcome .actionNotAvailableAtRuntime 1)
  obtain ⟨run, hafter, hkept, hreturned⟩ := afterCall_unavailable (fun _ => []) booked index 1
  rw [hafter] at hrun
  refine ⟨first, _, run, hbegin, hrun, ?_, hreturned, ?_⟩
  · intro result hmem
    obtain rfl := List.mem_singleton.mp hmem
    refine ⟨?_, ?_⟩
    · intro f
      cases f with
      | knownMutations => exact ⟨1, rfl⟩
      | productionAttempts | proxyViolations | unknownDestinations | unknownApprovals
      | actionCausedUnknown | dbQueries => exact ⟨0, rfl⟩
    · intro f
      cases f <;> simp [contribution, sampleOutcome, field, zeroSafety, ownCount_ofNat,
        requestCounts, sampleResult]
  · intro haccounted
    have hsum := haccounted.summed .knownMutations
    rw [hkept, hsafety] at hsum
    have hcount := ofNat_injective hsum
    revert hcount
    simp only [total, results, turnResult, outcomeTurn, contribution, sampleOutcome, field,
      ownCount_ofNat, List.filterMap_cons, List.filterMap_nil, Option.bind_some, List.map_cons,
      List.map_nil, List.sum_cons, List.sum_nil]
    omega

end Samples

end NightWatch.Exploration.SafetyRuns
