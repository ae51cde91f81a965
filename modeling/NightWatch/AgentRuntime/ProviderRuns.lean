import NightWatch.AgentRuntime.Attribution
import NightWatch.AgentRuntime.Exhaustion
import NightWatch.AgentRuntime.Resumption

namespace NightWatch.AgentRuntime.ProviderRuns

open Lib.JsText Lib.JsData Lib.JsRuntime Lib.Guard Lib.Machine Lib.StepFunction
  AgentProtocol.Vocabulary AgentProtocol.Actions AgentProtocol.Validate AgentRuntime.ToolResults
  AgentRuntime.State AgentRuntime.Checkpoint AgentRuntime.Runtime AgentRuntime.Turns
  AgentRuntime.LogRuns AgentRuntime.Resumption AgentRuntime.Attribution
open AgentRuntime.Exhaustion (sampleDeps emptyArgumentsDigest sampleStart)

section Restoring

variable {rt : Runtime} {state : AgentRuntimeState} {checkpoint : AgentCheckpoint}

theorem usage_of_parseRuntimeState {fields : Fields}
    (h : parseRuntimeState (.obj (stateFields state)) = .ok fields) :
    subfield (JsValue.field fields "budget".toList) "usage".toList =
      .obj (usageFields state.usage) := by
  rw [parseRuntimeState, field_stateFields_budget] at h
  simp only [bind_eq_ok] at h
  obtain ⟨-, -, -, -, -, -, ⟨policy, usage⟩, hsnapshot, hstate⟩ := h
  obtain ⟨-, hsame⟩ := parseBudgetSnapshot_eq_ok.mp hsnapshot
  obtain ⟨rfl, rfl⟩ := Prod.mk.inj hsame
  obtain rfl := Except.ok.inj hstate
  split
  · simp [JsValue.field, lookup_mapSet, subfield]
    rfl
  · simp [JsValue.field, lookup_mapSet, subfield]
    rfl

theorem usage_of_resume {deps : AgentRuntimeDeps} {object : RuntimeObject}
    (h : resumeFromCheckpoint rt (checkpointDocument checkpoint) deps = some object) :
    object.usage = checkpoint.state.usage := by
  obtain ⟨fields, state, completedTurns, hfields, hstate, rfl⟩ := restored_of_resume h
  have hread := (reads_of_readState hstate).usage
  rw [usage_of_parseRuntimeState hfields] at hread
  exact Option.some.inj (hread.symm.trans (recovers_usage checkpoint.state.usage))

end Restoring

section Tallies

variable {rt : Runtime}

def tally (o : RuntimeObject) : Nat × Nat := (o.usage.reasonerCalls, o.usage.providerFailures)

def SavedTally (s : State) : Prop :=
  ∀ checkpoint, s.saved = some checkpoint → checkpoint.state.usage = s.object.usage

theorem savedTally_of_none {s : State} (h : s.saved = none) : SavedTally s := by
  intro checkpoint hsaved
  rw [h] at hsaved
  contradiction

variable (o : RuntimeObject)

variable (rt) in
theorem usage_of_checkpoint : (o.checkpoint rt).1.usage = o.usage ∧
      ∀ checkpoint, (o.checkpoint rt).2 = some checkpoint → checkpoint.state.usage = o.usage := by
  obtain ⟨byteLedger, hframe, hsaved⟩ := checkpoint_frame rt o
  rw [hframe]
  exact ⟨rfl, fun checkpoint h => congrArg AgentRuntimeState.usage (hsaved checkpoint h)⟩

theorem tally_refreshWallTime (now : ℤ) : tally (o.refreshWallTime now) = tally o := by
  unfold RuntimeObject.refreshWallTime
  split
  · rfl
  · rfl

theorem tally_formDrafts (drafts : List ReasonerHypothesisDraft) :
    tally (o.formDrafts drafts) = tally o := by
  obtain ⟨hypotheses, evidenceRefs, hframe⟩ := formDrafts_frame o drafts
  rw [hframe]
  rfl

theorem tally_applyIntent (turnId : JsString) (intent : AgentIntent) :
    tally (o.applyIntent turnId intent).1 = tally o := by
  obtain ⟨hypotheses, actionLog, evidenceRefs, candidateIds, candidateCount, hframe⟩ :=
    applyIntent_frame o turnId intent
  rw [hframe]
  rfl

variable (rt) in
theorem tally_applyToolResult (turnId : JsString) (tool : AgentToolId)
    (argumentDigest : JsString) (result : AgentToolResult) :
    tally (o.applyToolResult rt turnId tool argumentDigest result) = tally o := by
  have hcharge : tally (o.chargeTool rt result) = tally o := by
    unfold RuntimeObject.chargeTool
    dsimp only
    split
    · rfl
    · rfl
  obtain ⟨hypotheses, actionLog, evidenceRefs, pendingUntrusted, knownTargets,
    reproductionSurface, hframe⟩ := applyToolResult_frame rt o turnId tool argumentDigest result
  rw [hframe]
  exact hcharge

theorem tally_closeTurn (turn : Turn) : tally (closeTurn o turn).1 = tally o := by
  obtain ⟨actionLog, hframe⟩ := closeTurn_frame o turn
  rw [hframe]
  rfl

variable (rt) in
theorem usage_of_finish (outcome : TerminalOutcome) (now : ℤ) :
    tally (finish rt o outcome now).1 = tally o ∧
      ∀ checkpoint, (finish rt o outcome now).2 = some checkpoint →
        checkpoint.state.usage = (finish rt o outcome now).1.usage := by
  have hclosed : tally (RuntimeObject.close (o.refreshWallTime now) outcome) = tally o :=
    tally_refreshWallTime o now
  unfold finish
  split
  · obtain ⟨husage, hsaved⟩ :=
      usage_of_checkpoint rt (RuntimeObject.close (o.refreshWallTime now) outcome)
    refine ⟨?_, fun checkpoint h => (hsaved checkpoint h).trans husage.symm⟩
    rw [tally, husage]
    exact hclosed
  · exact ⟨hclosed, by simp⟩

def tallied : Event → Nat × Nat
  | .failed _ _ _ => (1, 1)
  | .answered _ _ _ => (1, 0)
  | _ => (0, 0)

theorem tally_of_move {s s' : State} {e : Event} (hsaved : SavedTally s) (h : Move rt s e s')
    (hthrow : e ≠ .driverThrow) : tally s'.object = tally s.object + tallied e ∧ SavedTally s' := by
  cases h with
  | run | runCancelled | haltCancelled | haltPaused | dispatch | refuse | throwCancelled
  | execute | answeredNothing | slept | sleepThrow | executorThrow | intentsDone | stop | pause
  | cancel | failed | blocked | rejected | discard =>
      exact ⟨rfl, savedTally_of_none rfl⟩
  | driverThrow hcancelled => exact absurd rfl hthrow
  | loopHead now => exact ⟨tally_refreshWallTime _ now, savedTally_of_none rfl⟩
  | accepted stdoutBytes stderrBytes response accepted =>
      refine ⟨?_, savedTally_of_none rfl⟩
      exact tally_formDrafts _ accepted.hypotheses
  | applyIntent intent hintent =>
      exact ⟨tally_applyIntent _ _ intent, savedTally_of_none rfl⟩
  | executed call raw => exact ⟨tally_applyToolResult rt _ _ _ _ _, savedTally_of_none rfl⟩
  | turnEnd now =>
      refine ⟨?_, savedTally_of_none rfl⟩
      exact (tally_closeTurn _ _).trans (tally_refreshWallTime _ now)
  | finish now =>
      obtain ⟨htally, hcheckpoint⟩ := usage_of_finish rt _ _ now
      exact ⟨htally, hcheckpoint⟩
  | resume hwaits =>
      refine ⟨?_, savedTally_of_none rfl⟩
      obtain ⟨status, terminationReason, hframe⟩ := unpaused_frame s.object
      change tally (RuntimeObject.unpaused s.object) = tally s.object
      rw [hframe]
      rfl
  | checkpoint hwaits =>
      obtain ⟨husage, hcheckpoint⟩ := usage_of_checkpoint rt s.object
      refine ⟨?_, fun checkpoint h => (hcheckpoint checkpoint h).trans husage.symm⟩
      change tally (s.object.checkpoint rt).1 = tally s.object
      rw [tally, husage]
      rfl
  | @restore _ saved object deps hwaits hpresent hresumed =>
      refine ⟨?_, savedTally_of_none rfl⟩
      change tally object = tally s.object
      rw [tally, usage_of_resume hresumed, hsaved saved hpresent]
      rfl

end Tallies

section Accounts

variable {rt : Runtime}

def isFailure : Event → Bool
  | .failed _ _ _ => true
  | .driverThrow => true
  | _ => false

def isCompleted : Event → Bool
  | .answered _ _ _ => true
  | _ => false

def isExecution : Event → Bool
  | .execute _ => true
  | _ => false

def isAnswer : Event → Bool
  | .executed _ _ => true
  | _ => false

def inFlight : Control → Nat
  | .executing _ _ _ _ => 1
  | _ => 0

/-- The driver and the executor return, no call is discarded, and none is resumed from a checkpoint
taken while the executor was at work. -/
def Fits (s : State) : Event → Prop
  | .driverThrow => False
  | .discard _ => False
  | .executorThrow _ => False
  | .restore _ => inFlight s.control = 0
  | _ => True

instance (s : State) : (e : Event) → Decidable (Fits s e)
  | .driverThrow | .discard _ | .executorThrow _ => .isFalse id
  | .restore _ => inferInstanceAs (Decidable (_ = _))
  | .run _ _ | .runCancelled | .halt | .loopHead _ | .dispatch _ | .refuse _
  | .failed _ _ _ | .answered _ _ _ | .slept | .sleepThrow | .applyIntent | .execute _
  | .executed _ _ | .intentsDone | .stop | .turnEnd _ | .finish _ | .pause | .resume
  | .cancel | .checkpoint => .isTrue trivial

theorem countSourceActions_concat (log : List AgentActionRecord) (record : AgentActionRecord) :
    countSourceActions (log ++ [record]) = countSourceActions log +
      if record.intentKind = callToolKind then 1 else 0 := by
  rw [countSourceActions, countSourceActions, List.filter_append, List.length_append]
  congr 1
  split
  case isTrue h => simp [h]
  case isFalse h => simp [h]

variable {e : Event}

theorem sources_of_logMove {log log' : List AgentActionRecord} {s : State}
    (hfits : Fits s e) (hmove : LogMove log e log') :
    countSourceActions log' = countSourceActions log + if isAnswer e then 1 else 0 := by
  cases hmove with
  | same hcall =>
      cases e with
      | executed id raw => cases hcall
      | _ => rfl
  | @noted _ _ record hcall hplain =>
      have hkind : record.intentKind ≠ callToolKind := hplain.notCall
      rw [countSourceActions_concat, if_neg hkind]
      cases e with
      | executed id raw => cases hcall
      | _ => rfl
  | discarded o turnId id => exact hfits.elim
  | executed o turnId id raw =>
      rw [countSourceActions_concat]
      rfl

variable (o : RuntimeObject)

theorem inFlight_afterIntent (turn : Turn) (rest : List AgentIntent)
    (replanned : Bool) (outcome : IntentOutcome) :
    inFlight (afterIntent o turn rest replanned outcome) = 0 := by
  cases outcome with
  | continues =>
      rw [afterIntent]
      split
      · rfl
      · rfl
  | _ => rfl

theorem inFlight_afterFailure (turn : Turn) (failure : ReasonerFailureClass) :
    inFlight (afterFailure turn failure) = 0 := by
  rw [afterFailure]
  split
  · rfl
  · rfl

theorem inFlight_enterTurn (maxTurns : JsNumber) : inFlight (enterTurn o maxTurns) = 0 := by
  rw [enterTurn]
  split_ifs
  · rfl
  · rfl
  · rfl

theorem inFlight_closeTurn (turn : Turn) : inFlight (closeTurn o turn).2 = 0 := by
  unfold closeTurn
  split_ifs
  · rfl
  · rfl
  · rfl

theorem inFlight_of_move {s s' : State} (h : Move rt s e s') (hfits : Fits s e) :
    inFlight s'.control + (if isAnswer e then 1 else 0) =
      inFlight s.control + if isExecution e then 1 else 0 := by
  cases h with
  | run | runCancelled | haltCancelled | haltPaused | dispatch | refuse | throwCancelled
  | execute | answeredNothing | slept | sleepThrow | intentsDone | stop | pause | resume
  | cancel | checkpoint | blocked | accepted | finish => rfl
  | driverThrow hcancelled => exact hfits.elim
  | executorThrow call => exact hfits.elim
  | discard id hdiscards => exact hfits.elim
  | loopHead now => exact inFlight_enterTurn _ _
  | failed stdoutBytes stderrBytes failure => exact inFlight_afterFailure _ failure
  | rejected stdoutBytes stderrBytes response failure => exact inFlight_afterFailure _ failure
  | applyIntent intent hintent => exact inFlight_afterIntent _ _ _ _ _
  | executed call raw =>
      simp only [inFlight_afterIntent]
      rfl
  | turnEnd now => exact inFlight_closeTurn _ _
  | restore deps hwaits hsaved hresumed =>
      change 0 + 0 = inFlight s.control + 0
      rw [hfits]

/-- The counters of the object beside the events of the run. -/
structure Accounts (history : List Event) (s : State) : Prop where
  calls : s.object.usage.reasonerCalls = history.countP isFailure + history.countP isCompleted
  failures : s.object.usage.providerFailures = history.countP isFailure
  sources : countSourceActions s.object.actionLog + inFlight s.control = history.countP isExecution
  savedLog : SavedLog s
  savedTally : SavedTally s

theorem Accounts.step {history : List Event} {s s' : State} (h : Accounts history s)
    (hfits : Fits s e) (hmove : Move rt s e s') : Accounts (history ++ [e]) s' := by
  have hthrow : e ≠ .driverThrow := by
    rintro rfl
    exact hfits.elim
  obtain ⟨htally, hsavedTally⟩ := tally_of_move h.savedTally hmove hthrow
  obtain ⟨hlog, hsavedLog⟩ := logMove_of_move h.savedLog hmove
  have hsources := sources_of_logMove hfits hlog
  have hflight := inFlight_of_move hmove hfits
  have hcalls : s'.object.usage.reasonerCalls =
      s.object.usage.reasonerCalls + (tallied e).1 := congrArg Prod.fst htally
  have hfailures : s'.object.usage.providerFailures =
      s.object.usage.providerFailures + (tallied e).2 := congrArg Prod.snd htally
  have hkinds : (tallied e).1 = (if isFailure e then 1 else 0) + (if isCompleted e then 1 else 0) ∧
      (tallied e).2 = if isFailure e then 1 else 0 := by
    cases e with
    | driverThrow => exact absurd rfl hthrow
    | _ => exact ⟨rfl, rfl⟩
  have holdCalls := h.calls
  have holdFailures := h.failures
  have holdSources := h.sources
  refine ⟨?_, ?_, ?_, hsavedLog, hsavedTally⟩
  · rw [List.countP_append, List.countP_append, List.countP_singleton, List.countP_singleton,
      hcalls, hkinds.1]
    omega
  · rw [List.countP_append, List.countP_singleton, hfailures, hkinds.2]
    omega
  · rw [List.countP_append, List.countP_singleton, hsources]
    omega

variable {argumentDigest : Fields → JsString} {deps : AgentRuntimeDeps} {clock : ℤ}
  {history : List Event} {s : State}

theorem accounts_of_run
    (hrun : Run ((runtimeSystem rt argumentDigest (.create deps) clock).guarded Fits) history s) :
    Accounts history s := by
  refine hrun.invariant ⟨rfl, rfl, rfl, savedLog_of_none rfl, savedTally_of_none rfl⟩ ?_
  rintro past before e after hpast ⟨hadvance, hfits⟩
  exact hpast.step hfits (move_of_advance hadvance)

end Accounts

section Attributions

variable {rt : Runtime} {argumentDigest : Fields → JsString} {deps : AgentRuntimeDeps} {clock : ℤ}
  {history : List Event} {s : State}

def attributionOf (o : RuntimeObject) : ProviderFailureAttribution :=
  attributeProviderFailures o.actionLog o.usage.reasonerCalls o.usage.providerFailures

variable {failures sourceActions totalCalls : Nat}

theorem valid_iff :
    terminationClassOf totalCalls failures sourceActions = .validProviderRun ↔ failures = 0 := by
  rw [terminationClassOf]
  split_ifs with hnone hblocked
  · simp [hnone]
  · simp [hnone]
  · simp [hnone]

theorem blocked_iff :
    terminationClassOf totalCalls failures sourceActions = .providerBlockedBeforeSourceAction ↔
      failures ≠ 0 ∧ sourceActions = 0 ∧ totalCalls = failures := by
  rw [terminationClassOf]
  split_ifs with hnone hblocked
  · simp [hnone]
  · simp [hnone, hblocked]
  · simp [hnone, hblocked]

/-- In a run whose steps fit, the attribution tells what became of the calls; what it says of
the executor holds while no invocation of it is under way. -/
theorem attribution_of_run
    (hrun : Run ((runtimeSystem rt argumentDigest (.create deps) clock).guarded Fits) history s) :
    ((attributionOf s.object).terminationClass = .validProviderRun ↔ history.countP isFailure = 0) ∧
    (inFlight s.control = 0 →
      ((attributionOf s.object).terminationClass = .providerBlockedBeforeSourceAction ↔
        0 < history.countP isFailure ∧ history.countP isCompleted = 0 ∧
          history.countP isExecution = 0) ∧
      (attributionOf s.object).sourceActions = history.countP isExecution) := by
  obtain ⟨hcalls, hfailures, hsources, -, -⟩ := accounts_of_run hrun
  have hattributed : attributedFailures s.object.usage.reasonerCalls
      s.object.usage.providerFailures = history.countP isFailure := by
    rw [attributedFailures, hcalls, hfailures]
    omega
  refine ⟨?_, fun hflight => ⟨?_, ?_⟩⟩
  · change terminationClassOf _ (attributedFailures _ _) _ = _ ↔ _
    rw [valid_iff, hattributed]
  · change terminationClassOf _ (attributedFailures _ _) (countSourceActions _) = _ ↔ _
    rw [blocked_iff, hattributed, hcalls]
    omega
  · change countSourceActions s.object.actionLog = _
    omega

end Attributions

def thrownHistory : List Event := [.run none 0, .loopHead 0, .dispatch ⟨0, 0, 0⟩, .driverThrow]

def failedHistory : List Event :=
  [.run none 0, .loopHead 0, .dispatch ⟨0, 0, 0⟩, .failed 0 0 .timeout]

/-- A call that threw is no failure to the attribution. -/
theorem thrown_call_is_valid : ∃ s, Run (runtimeSystem plainRuntime emptyArgumentsDigest
      (.create sampleDeps) 0) thrownHistory s ∧
    (attributionOf s.object).terminationClass = .validProviderRun ∧
    thrownHistory.countP isFailure = 1 := by
  have hevaluated : (evaluate (advance plainRuntime emptyArgumentsDigest) sampleStart
      thrownHistory).any (fun s =>
        (attributionOf s.object).terminationClass = .validProviderRun) = true := by
    decide +kernel
  obtain ⟨s, hs, hvalid⟩ := (Option.any_eq_true _ _).mp hevaluated
  exact ⟨s, run_of_evaluate hs, of_decide_eq_true hvalid, rfl⟩

/-- A call that failed before anything else blocks the provider. -/
theorem attribution_of_run_failed : ∃ s : State, inFlight s.control = 0 ∧
    ((attributionOf s.object).terminationClass = .validProviderRun ↔
      failedHistory.countP isFailure = 0) ∧
    ((attributionOf s.object).terminationClass = .providerBlockedBeforeSourceAction ↔
        0 < failedHistory.countP isFailure ∧ failedHistory.countP isCompleted = 0 ∧
          failedHistory.countP isExecution = 0) ∧
      (attributionOf s.object).sourceActions = failedHistory.countP isExecution := by
  have hevaluated : (evaluate (restrict (advance plainRuntime emptyArgumentsDigest) Fits)
      sampleStart failedHistory).any (fun s => inFlight s.control = 0) = true := by
    decide +kernel
  obtain ⟨s, hs, hflight⟩ := (Option.any_eq_true _ _).mp hevaluated
  have hidle : inFlight s.control = 0 := of_decide_eq_true hflight
  obtain ⟨hvalid, hrest⟩ := attribution_of_run (guarded_run_of_evaluate hs)
  exact ⟨s, hidle, hvalid, hrest hidle⟩

end NightWatch.AgentRuntime.ProviderRuns
