import NightWatch.AgentRuntime.ProviderRuns

namespace NightWatch.AgentRuntime.CapRuns

open Lib.JsText Lib.JsData Lib.JsRuntime Lib.Machine Lib.StepFunction
  AgentProtocol.Vocabulary AgentProtocol.Budget AgentProtocol.Validate AgentRuntime.ToolResults
  AgentRuntime.State AgentRuntime.Runtime AgentRuntime.Turns AgentRuntime.LogRuns
  AgentRuntime.Checkpoint
open AgentRuntime.ProviderRuns (usage_of_resume tallied tally
  tally_of_move SavedTally savedTally_of_none)
open AgentRuntime.Exhaustion (sampleDeps emptyArgumentsDigest sampleStart)

structure Counters where
  reasonerCalls : Nat
  toolActions : Nat
  candidateCount : Nat
  failures : Nat
  consecutiveFailures : Nat
  providerFailures : Nat
  candidateIds : List JsString

def countersOf (usage : AgentBudgetUsage) (candidateIds : List JsString) : Counters where
  reasonerCalls := usage.reasonerCalls
  toolActions := usage.toolActions
  candidateCount := usage.candidateCount
  failures := usage.failures
  consecutiveFailures := usage.consecutiveFailures
  providerFailures := usage.providerFailures
  candidateIds := candidateIds

def counters (o : RuntimeObject) : Counters := countersOf o.usage o.candidateIds

/-- No counter is above its cap, and the candidates are told apart and counted. -/
structure Within (policy : AgentBudgetPolicy) (c : Counters) : Prop where
  reasonerCalls : c.reasonerCalls ≤ policy.reasonerCalls
  toolActions : c.toolActions ≤ policy.toolActions
  candidateCount : c.candidateCount ≤ policy.candidateCap
  failures : c.failures ≤ policy.failures
  consecutiveFailures : c.consecutiveFailures ≤ policy.consecutiveFailures
  providerFailures : c.providerFailures ≤ policy.providerFailures
  nodup : c.candidateIds.Nodup
  counted : c.candidateIds.length ≤ c.candidateCount

/-- A tool action and a candidate are left. -/
structure Spare (policy : AgentBudgetPolicy) (c : Counters) : Prop where
  within : Within policy c
  toolActions : c.toolActions < policy.toolActions
  candidateCount : c.candidateCount < policy.candidateCap
  failures : c.failures < policy.failures
  consecutiveFailures : c.consecutiveFailures < policy.consecutiveFailures

/-- A call is left as well. -/
structure Open (policy : AgentBudgetPolicy) (c : Counters) : Prop where
  spare : Spare policy c
  reasonerCalls : c.reasonerCalls < policy.reasonerCalls
  providerFailures : c.providerFailures < policy.providerFailures

theorem open_of_below {policy : AgentBudgetPolicy} {o : RuntimeObject}
    (h : Below policy o.usage) (hwithin : Within policy (counters o)) : Open policy (counters o) :=
  ⟨⟨hwithin, h.toolActions, h.candidateCount, h.failures, h.consecutiveFailures⟩,
    h.reasonerCalls, h.providerFailures⟩

/-- What the point of control says of the counters. -/
def Leaves (policy : AgentBudgetPolicy) (c : Counters) : Control → Prop
  | .requesting _ => Open policy c
  | .calling _ => Open policy c
  | .intents _ _ _ => Spare policy c
  | .executing _ _ _ _ => Spare policy c
  | _ => Within policy c

theorem Leaves.within {policy : AgentBudgetPolicy} {c : Counters} {control : Control}
    (h : Leaves policy c control) : Within policy c := by
  cases control with
  | requesting turn => exact (Open.spare h).within
  | calling turn => exact (Open.spare h).within
  | intents turn intents replanned => exact Spare.within h
  | executing turn call rest replanned => exact Spare.within h
  | _ => exact h

section Operations

variable {rt : Runtime} (o : RuntimeObject)

theorem counters_refreshWallTime (now : ℤ) :
    counters (o.refreshWallTime now) = counters o ∧ (o.refreshWallTime now).deps = o.deps := by
  unfold RuntimeObject.refreshWallTime
  split
  · exact ⟨rfl, rfl⟩
  · exact ⟨rfl, rfl⟩

theorem counters_formDrafts (drafts : List ReasonerHypothesisDraft) :
    counters (o.formDrafts drafts) = counters o ∧ (o.formDrafts drafts).deps = o.deps := by
  obtain ⟨hypotheses, evidenceRefs, hframe⟩ := formDrafts_frame o drafts
  rw [hframe]
  exact ⟨rfl, rfl⟩

theorem counters_closeTurn (turn : Turn) :
    counters (closeTurn o turn).1 = counters o ∧ (closeTurn o turn).1.deps = o.deps := by
  obtain ⟨actionLog, hframe⟩ := closeTurn_frame o turn
  rw [hframe]
  exact ⟨rfl, rfl⟩

variable (rt) in
theorem counters_of_checkpoint :
    (counters (o.checkpoint rt).1 = counters o ∧ (o.checkpoint rt).1.deps = o.deps) ∧
      ∀ checkpoint, (o.checkpoint rt).2 = some checkpoint →
        countersOf checkpoint.state.usage checkpoint.state.candidateIds = counters o := by
  obtain ⟨byteLedger, hframe, hsaved⟩ := checkpoint_frame rt o
  rw [hframe]
  exact ⟨⟨rfl, rfl⟩, fun checkpoint h =>
    congrArg (fun state => countersOf state.usage state.candidateIds) (hsaved checkpoint h)⟩

variable (rt) in
theorem counters_of_finish (outcome : TerminalOutcome) (now : ℤ) :
    (counters (finish rt o outcome now).1 = counters o ∧
      (finish rt o outcome now).1.deps = o.deps) ∧
      ∀ checkpoint, (finish rt o outcome now).2 = some checkpoint →
        countersOf checkpoint.state.usage checkpoint.state.candidateIds = counters o := by
  obtain ⟨hcounters, hdeps⟩ := counters_refreshWallTime o now
  unfold finish
  split
  · obtain ⟨⟨hkept, hkeptDeps⟩, hsaved⟩ :=
      counters_of_checkpoint rt (RuntimeObject.close (o.refreshWallTime now) outcome)
    exact ⟨⟨hkept.trans hcounters, hkeptDeps.trans hdeps⟩,
      fun checkpoint h => (hsaved checkpoint h).trans hcounters⟩
  · exact ⟨⟨hcounters, hdeps⟩, by simp⟩

def Counters.chargeTool (c : Counters) (ok : Bool) : Counters :=
  if ok then { c with toolActions := c.toolActions + 1 }
  else { c with
    toolActions := c.toolActions + 1
    failures := c.failures + 1
    consecutiveFailures := c.consecutiveFailures + 1 }

variable (rt) in
theorem counters_applyToolResult (turnId : JsString) (tool : AgentToolId)
    (argumentDigest : JsString) (result : AgentToolResult) :
    counters (o.applyToolResult rt turnId tool argumentDigest result) =
        (counters o).chargeTool result.ok ∧
      (o.applyToolResult rt turnId tool argumentDigest result).deps = o.deps := by
  have hcharge : counters (o.chargeTool rt result) = (counters o).chargeTool result.ok ∧
      (o.chargeTool rt result).deps = o.deps := by
    unfold RuntimeObject.chargeTool Counters.chargeTool
    dsimp only
    split
    · exact ⟨rfl, rfl⟩
    · exact ⟨rfl, rfl⟩
  obtain ⟨hypotheses, actionLog, evidenceRefs, pendingUntrusted, knownTargets,
    reproductionSurface, hframe⟩ := applyToolResult_frame rt o turnId tool argumentDigest result
  rw [hframe]
  exact hcharge

theorem deps_applyIntent (turnId : JsString) (intent : AgentIntent) :
    (o.applyIntent turnId intent).1.deps = o.deps := by
  obtain ⟨hypotheses, actionLog, evidenceRefs, candidateIds, candidateCount, hframe⟩ :=
    applyIntent_frame o turnId intent
  rw [hframe]

end Operations

section Budgets

variable {policy : AgentBudgetPolicy} {c : Counters}

theorem Open.answered (h : Open policy c) :
    Spare policy { c with reasonerCalls := c.reasonerCalls + 1 } where
  within := { h.spare.within with reasonerCalls := h.reasonerCalls }
  toolActions := h.spare.toolActions
  candidateCount := h.spare.candidateCount
  failures := h.spare.failures
  consecutiveFailures := h.spare.consecutiveFailures

theorem Spare.accepted (h : Spare policy c) : Spare policy { c with consecutiveFailures := 0 } where
  within := { h.within with consecutiveFailures := Nat.zero_le _ }
  toolActions := h.toolActions
  candidateCount := h.candidateCount
  failures := h.failures
  consecutiveFailures := Nat.lt_of_le_of_lt (Nat.zero_le _) h.consecutiveFailures

theorem Spare.failed (h : Spare policy c) : Within policy { c with
    failures := c.failures + 1
    consecutiveFailures := c.consecutiveFailures + 1 } :=
  { h.within with failures := h.failures, consecutiveFailures := h.consecutiveFailures }

theorem Open.failed (h : Open policy c) : Within policy { c with
    providerFailures := c.providerFailures + 1
    failures := c.failures + 1
    consecutiveFailures := c.consecutiveFailures + 1 } :=
  { h.spare.failed with providerFailures := h.providerFailures }

theorem Spare.chargeTool (h : Spare policy c) (ok : Bool) : Within policy (c.chargeTool ok) := by
  rw [Counters.chargeTool]
  split
  · exact { h.within with toolActions := h.toolActions }
  · exact { h.failed with toolActions := h.toolActions }

theorem Spare.applyIntent {o : RuntimeObject} (h : Spare policy (counters o)) (turnId : JsString)
    (intent : AgentIntent) : Within policy (counters (o.applyIntent turnId intent).1) ∧
      ((o.applyIntent turnId intent).2 = .replanned →
        counters (o.applyIntent turnId intent).1 = counters o) := by
  cases intent with
  | formHypothesis hypothesisId statement evidenceRefs =>
      simp only [RuntimeObject.applyIntent]
      split
      · exact ⟨h.within, fun _ => rfl⟩
      · exact ⟨h.within, fun _ => rfl⟩
  | proposeCandidate candidateId evidenceRefs =>
      simp only [RuntimeObject.applyIntent]
      split
      · refine ⟨?_, fun houtcome => by cases houtcome⟩
        have hnodup : (counters o).candidateIds.Nodup := h.within.nodup
        have hcounted : (counters o).candidateIds.length ≤ (counters o).candidateCount :=
          h.within.counted
        change o.candidateIds.Nodup at hnodup
        change o.candidateIds.length ≤ o.usage.candidateCount at hcounted
        refine { h.within with candidateCount := h.candidateCount, nodup := ?_, counted := ?_ }
        · change (if candidateId ∈ o.candidateIds then o.candidateIds
            else o.candidateIds ++ [candidateId]).Nodup
          split
          · exact hnodup
          · rename_i hnew
            exact List.nodup_append.mpr ⟨hnodup, List.nodup_singleton _, by
              intro a ha b hb
              rw [List.mem_singleton.mp hb]
              exact fun hsame => hnew (hsame ▸ ha)⟩
        · change (if candidateId ∈ o.candidateIds then o.candidateIds
            else o.candidateIds ++ [candidateId]).length ≤ o.usage.candidateCount + 1
          split
          · omega
          · rw [List.length_append, List.length_singleton]
            omega
      · exact ⟨h.within, fun _ => rfl⟩
  | rejectCandidate candidateId reason =>
      refine ⟨?_, fun houtcome => by cases houtcome⟩
      have hcounted : o.candidateIds.length ≤ o.usage.candidateCount := h.within.counted
      have hnodup : o.candidateIds.Nodup := h.within.nodup
      refine { h.within with nodup := ?_, counted := ?_ }
      · exact hnodup.filter _
      · exact (List.length_filter_le _ o.candidateIds).trans hcounted
  | _ => exact ⟨h.within, fun _ => rfl⟩

end Budgets

section Restoring

variable {rt : Runtime}

theorem counters_of_resume {checkpoint : AgentCheckpoint} {deps : AgentRuntimeDeps}
    {object : RuntimeObject}
    (h : resumeFromCheckpoint rt (checkpointDocument checkpoint) deps = some object) :
    counters object = countersOf checkpoint.state.usage checkpoint.state.candidateIds ∧
      object.deps = deps := by
  have husage := usage_of_resume h
  obtain ⟨fields, state, completedTurns, hfields, hstate, rfl⟩ := restored_of_resume h
  have hread := (reads_of_readState hstate).candidateIds
  rw [field_of_parseRuntimeState hfields (by decide) (by decide)] at hread
  have hids : state.candidateIds = checkpoint.state.candidateIds :=
    Option.some.inj (hread.symm.trans (recovers_texts checkpoint.state.candidateIds))
  refine ⟨?_, rfl⟩
  rw [← husage, ← hids]
  rfl

end Restoring

section Steps

variable {rt : Runtime} {policy : AgentBudgetPolicy}

def inCall : Control → Nat
  | .calling _ => 1
  | _ => 0

/-- A resume keeps the policy, and its checkpoint was not taken during a call. -/
def Keeps (policy : AgentBudgetPolicy) (s : State) : Event → Prop
  | .restore deps => deps.budgetPolicy = policy ∧ inCall s.control = 0
  | _ => True

instance (policy : AgentBudgetPolicy) (s : State) : (e : Event) → Decidable (Keeps policy s e)
  | .restore _ => inferInstanceAs (Decidable (_ ∧ _))
  | .run _ _ | .runCancelled | .halt | .loopHead _ | .dispatch _ | .refuse _ | .driverThrow
  | .failed _ _ _ | .answered _ _ _ | .slept | .sleepThrow | .applyIntent | .discard _ | .execute _
  | .executed _ _ | .executorThrow _ | .intentsDone | .stop | .turnEnd _ | .finish _ | .pause
  | .resume | .cancel | .checkpoint => .isTrue trivial

theorem leaves_afterIntent {o : RuntimeObject} (hpolicy : o.policy = policy)
    (hwithin : Within policy (counters o)) (turn : Turn) (rest : List AgentIntent)
    (replanned : Bool) :
    Leaves policy (counters o) (afterIntent o turn rest replanned .continues) := by
  rw [afterIntent]
  split
  case isTrue => exact hwithin
  case isFalse hbudget =>
    rw [hpolicy, Bool.not_eq_true, budgetExhausted_eq_false_iff] at hbudget
    exact (open_of_below hbudget hwithin).spare

theorem leaves_enterTurn {o : RuntimeObject} (hpolicy : o.policy = policy)
    (hwithin : Within policy (counters o)) (maxTurns : JsNumber) :
    Leaves policy (counters o) (enterTurn o maxTurns) := by
  rw [enterTurn]
  split_ifs with hbudget hturns
  · exact hwithin
  · exact hwithin
  · rw [hpolicy, Bool.not_eq_true, budgetExhausted_eq_false_iff] at hbudget
    exact open_of_below hbudget hwithin

theorem leaves_afterFailure {c : Counters} (hwithin : Within policy c) (turn : Turn)
    (failure : ReasonerFailureClass) : Leaves policy c (afterFailure turn failure) := by
  rw [afterFailure]
  split
  · exact hwithin
  · exact hwithin

theorem leaves_closeTurn {c : Counters} (hwithin : Within policy c) (o : RuntimeObject)
    (turn : Turn) : Leaves policy c (closeTurn o turn).2 := by
  unfold closeTurn
  split_ifs
  · exact hwithin
  · exact hwithin
  · exact hwithin

/-- What holds of a state between two steps. -/
structure Capped (policy : AgentBudgetPolicy) (s : State) : Prop where
  leaves : Leaves policy (counters s.object) s.control
  policy : s.object.policy = policy
  saved : ∀ checkpoint, s.saved = some checkpoint →
    countersOf checkpoint.state.usage checkpoint.state.candidateIds = counters s.object

theorem Capped.of_leaves {s : State} (hleaves : Leaves policy (counters s.object) s.control)
    (hpolicy : s.object.policy = policy) (hsaved : s.saved = none) : Capped policy s := by
  refine ⟨hleaves, hpolicy, ?_⟩
  intro checkpoint h
  rw [hsaved] at h
  contradiction

theorem Capped.step {s s' : State} {e : Event} (h : Capped policy s) (hfits : Keeps policy s e)
    (hmove : Move rt s e s') : Capped policy s' := by
  obtain ⟨hleaves, hpolicy, hsaved⟩ := h
  cases hmove with
  | run | runCancelled | haltCancelled | haltPaused | dispatch | slept | sleepThrow | execute |
      stop =>
      exact .of_leaves hleaves hpolicy rfl
  | refuse | throwCancelled | executorThrow | intentsDone =>
      exact .of_leaves hleaves.within hpolicy rfl
  | @loopHead o _ _ maxTurns now =>
      obtain ⟨hcounters, hdeps⟩ := counters_refreshWallTime o now
      have hkept : (o.refreshWallTime now).policy = policy :=
        (congrArg AgentRuntimeDeps.budgetPolicy hdeps).trans hpolicy
      refine .of_leaves (leaves_enterTurn hkept ?_ maxTurns) hkept rfl
      rw [hcounters]
      exact hleaves
  | driverThrow hcancelled => exact .of_leaves hleaves.failed hpolicy rfl
  | @failed o _ _ turn stdoutBytes stderrBytes failure =>
      have hopen : Open policy (counters o) := hleaves
      have hfailed : Within policy (counters (RuntimeObject.noteFailed o turn stdoutBytes
          stderrBytes failure)) := { hopen.failed with reasonerCalls := hopen.reasonerCalls }
      exact .of_leaves (leaves_afterFailure hfailed turn failure) hpolicy rfl
  | answeredNothing stdoutBytes stderrBytes response =>
      exact .of_leaves (Open.answered hleaves).within hpolicy rfl
  | blocked stdoutBytes stderrBytes response failure =>
      exact .of_leaves (Open.answered hleaves).within hpolicy rfl
  | @rejected o _ _ turn stdoutBytes stderrBytes response failure =>
      have hfailed : Within policy (counters (RuntimeObject.noteRejected
          ((o.chargeResponse stdoutBytes stderrBytes).measureResponse rt response) turn
            failure)) := (Open.answered hleaves).failed
      exact .of_leaves (leaves_afterFailure hfailed turn failure) hpolicy rfl
  | @accepted o _ _ turn stdoutBytes stderrBytes response accepted =>
      obtain ⟨hcounters, hdeps⟩ := counters_formDrafts
        { (o.chargeResponse stdoutBytes stderrBytes).measureResponse rt response with
          usage := { ((o.chargeResponse stdoutBytes stderrBytes).measureResponse rt
            response).usage with consecutiveFailures := 0 } } accepted.hypotheses
      refine .of_leaves ?_ ((congrArg AgentRuntimeDeps.budgetPolicy hdeps).trans hpolicy) rfl
      change Spare policy (counters (RuntimeObject.accept _ accepted))
      rw [RuntimeObject.accept, hcounters]
      exact (Open.answered hleaves).accepted
  | @applyIntent o _ _ turn rest replanned intent hintent =>
      have hkept : (o.applyIntent turn.turnId intent).1.policy = policy :=
        (congrArg AgentRuntimeDeps.budgetPolicy (deps_applyIntent o turn.turnId intent)).trans
          hpolicy
      obtain ⟨hwithin, hsame⟩ := Spare.applyIntent hleaves turn.turnId intent
      refine .of_leaves ?_ hkept rfl
      change Leaves policy (counters (o.applyIntent turn.turnId intent).1)
        (afterIntent (o.applyIntent turn.turnId intent).1 turn rest replanned
          (o.applyIntent turn.turnId intent).2)
      cases houtcome : (o.applyIntent turn.turnId intent).2 with
      | continues => exact leaves_afterIntent hkept hwithin turn rest replanned
      | replanned =>
          rw [hsame houtcome]
          exact hleaves
      | terminal outcome => exact hwithin
  | @discard o _ _ turn intent rest replanned id hdiscards =>
      exact .of_leaves (leaves_afterIntent hpolicy hleaves.within turn rest replanned) hpolicy rfl
  | @executed o _ _ turn rest replanned call raw =>
      obtain ⟨hcounters, hdeps⟩ := counters_applyToolResult rt o turn.turnId call.id.tool
        call.id.argumentDigest (normalizeToolResult raw)
      have hkept : (o.applyToolResult rt turn.turnId call.id.tool call.id.argumentDigest
          (normalizeToolResult raw)).policy = policy :=
        (congrArg AgentRuntimeDeps.budgetPolicy hdeps).trans hpolicy
      refine .of_leaves (leaves_afterIntent hkept ?_ turn rest replanned) hkept rfl
      rw [hcounters]
      exact Spare.chargeTool hleaves _
  | @turnEnd o _ _ turn now =>
      obtain ⟨hcounters, hdeps⟩ := counters_closeTurn
        ((RuntimeObject.nextTurn o).refreshWallTime now) turn
      obtain ⟨hrefreshed, hrefreshedDeps⟩ := counters_refreshWallTime (RuntimeObject.nextTurn o) now
      have hkept : (closeTurn ((RuntimeObject.nextTurn o).refreshWallTime now) turn).1.policy =
          policy :=
        (congrArg AgentRuntimeDeps.budgetPolicy (hdeps.trans hrefreshedDeps)).trans hpolicy
      refine .of_leaves (leaves_closeTurn ?_ _ turn) hkept rfl
      change Within policy (counters (closeTurn _ turn).1)
      rw [hcounters, hrefreshed]
      exact hleaves
  | @finish o _ _ outcome now =>
      obtain ⟨⟨hcounters, hdeps⟩, hcheckpoint⟩ := counters_of_finish rt o outcome now
      refine ⟨?_, (congrArg AgentRuntimeDeps.budgetPolicy hdeps).trans hpolicy, ?_⟩
      · change Within policy (counters (finish rt o outcome now).1)
        rw [hcounters]
        exact hleaves
      · exact fun checkpoint hpresent => (hcheckpoint checkpoint hpresent).trans hcounters.symm
  | pause | cancel => exact .of_leaves hleaves hpolicy rfl
  | resume hwaits =>
      have hsame : counters (RuntimeObject.unpaused s.object) = counters s.object ∧
          (RuntimeObject.unpaused s.object).deps = s.object.deps := by
        obtain ⟨status, terminationReason, hframe⟩ := unpaused_frame s.object
        rw [hframe]
        exact ⟨rfl, rfl⟩
      refine .of_leaves ?_ ((congrArg AgentRuntimeDeps.budgetPolicy hsame.2).trans hpolicy) rfl
      change Leaves policy (counters (RuntimeObject.unpaused s.object)) s.control
      rw [hsame.1]
      exact hleaves
  | checkpoint hwaits =>
      obtain ⟨⟨hcounters, hdeps⟩, hcheckpoint⟩ := counters_of_checkpoint rt s.object
      refine ⟨?_, (congrArg AgentRuntimeDeps.budgetPolicy hdeps).trans hpolicy, ?_⟩
      · change Leaves policy (counters (s.object.checkpoint rt).1) s.control
        rw [hcounters]
        exact hleaves
      · exact fun checkpoint hpresent => (hcheckpoint checkpoint hpresent).trans hcounters.symm
  | @restore _ saved object deps hwaits hpresent hresumed =>
      obtain ⟨hcounters, hdeps⟩ := counters_of_resume hresumed
      refine .of_leaves ?_ ((congrArg AgentRuntimeDeps.budgetPolicy hdeps).trans hfits.1) rfl
      change Within policy (counters object)
      rw [hcounters, hsaved saved hpresent]
      exact hleaves.within

end Steps

section Dispatches

variable {rt : Runtime} {policy : AgentBudgetPolicy}

def isDispatch : Event → Bool
  | .dispatch _ => true
  | _ => false

variable (o : RuntimeObject)

theorem inCall_afterIntent (turn : Turn) (rest : List AgentIntent)
    (replanned : Bool) (outcome : IntentOutcome) :
    inCall (afterIntent o turn rest replanned outcome) = 0 := by
  cases outcome with
  | continues =>
      rw [afterIntent]
      split
      · rfl
      · rfl
  | _ => rfl

theorem inCall_afterFailure (turn : Turn) (failure : ReasonerFailureClass) :
    inCall (afterFailure turn failure) = 0 := by
  rw [afterFailure]
  split
  · rfl
  · rfl

theorem inCall_enterTurn (maxTurns : JsNumber) : inCall (enterTurn o maxTurns) = 0 := by
  rw [enterTurn]
  split_ifs
  · rfl
  · rfl
  · rfl

theorem inCall_closeTurn (turn : Turn) : inCall (closeTurn o turn).2 = 0 := by
  unfold closeTurn
  split_ifs
  · rfl
  · rfl
  · rfl

theorem inCall_of_move {s s' : State} {e : Event} (h : Move rt s e s') (hfits : Keeps policy s e)
    (hthrow : e ≠ .driverThrow) :
    inCall s'.control + (tallied e).1 = inCall s.control + if isDispatch e then 1 else 0 := by
  cases h with
  | run | runCancelled | haltCancelled | haltPaused | dispatch | refuse | execute |
      answeredNothing | slept | sleepThrow | executorThrow | intentsDone | stop | pause | resume |
      cancel | checkpoint | blocked | accepted | finish => rfl
  | throwCancelled hcancelled => exact absurd rfl hthrow
  | driverThrow hcancelled => exact absurd rfl hthrow
  | loopHead now => exact inCall_enterTurn _ _
  | failed stdoutBytes stderrBytes failure =>
      simp only [inCall_afterFailure]
      rfl
  | rejected stdoutBytes stderrBytes response failure =>
      simp only [inCall_afterFailure]
      rfl
  | applyIntent intent hintent => exact inCall_afterIntent _ _ _ _ _
  | discard id hdiscards =>
      simp only [inCall_afterIntent]
      rfl
  | executed call raw =>
      simp only [inCall_afterIntent]
      rfl
  | turnEnd now => exact inCall_closeTurn _ _
  | restore deps hwaits hsaved hresumed =>
      change 0 + 0 = inCall s.control + 0
      rw [hfits.2]

variable {argumentDigest : Fields → JsString} {start : RuntimeObject} {clock : ℤ}
  {history : List Event} {s : State}

theorem capped_of_run (hstart : Within start.policy (counters start))
    (hrun : Run ((runtimeSystem rt argumentDigest start clock).guarded (Keeps start.policy))
      history s) : Capped start.policy s := by
  refine hrun.state_invariant (.of_leaves hstart rfl rfl) ?_
  rintro before e after hcapped ⟨hadvance, hfits⟩
  exact hcapped.step hfits (move_of_advance hadvance)

theorem dispatches_of_run
    (hrun : Run ((runtimeSystem rt argumentDigest start clock).guarded (Keeps policy)) history s)
    (hthrow : ∀ e ∈ history, e ≠ .driverThrow) :
    history.countP isDispatch + start.usage.reasonerCalls =
      s.object.usage.reasonerCalls + inCall s.control := by
  have hcounted := hrun.invariant (P := fun past s => (∀ e ∈ past, e ≠ .driverThrow) →
    past.countP isDispatch + start.usage.reasonerCalls =
      s.object.usage.reasonerCalls + inCall s.control ∧ SavedTally s) ?_ ?_
  · exact (hcounted hthrow).1
  · intro _
    refine ⟨?_, savedTally_of_none rfl⟩
    change 0 + start.usage.reasonerCalls = start.usage.reasonerCalls + 0
    omega
  · rintro past before e after hpast ⟨hadvance, hfits⟩ hreturns
    have hmove := move_of_advance hadvance
    have hlast : e ≠ .driverThrow := hreturns e (by simp)
    obtain ⟨hcount, hsaved⟩ := hpast fun e' he' => hreturns e' (List.mem_append_left _ he')
    obtain ⟨htally, hsaved'⟩ := tally_of_move hsaved hmove hlast
    have hcalls : after.object.usage.reasonerCalls =
        before.object.usage.reasonerCalls + (tallied e).1 := congrArg Prod.fst htally
    have hflight := inCall_of_move hmove hfits hlast
    refine ⟨?_, hsaved'⟩
    rw [List.countP_append, List.countP_singleton, hcalls]
    omega

/-- Under one policy no counter passes its cap, and without a throw of the driver neither does
the number of dispatched calls. -/
theorem caps_hold (hstart : Within start.policy (counters start))
    (hrun : Run ((runtimeSystem rt argumentDigest start clock).guarded (Keeps start.policy))
      history s) : Within start.policy (counters s.object) ∧ ((∀ e ∈ history, e ≠ .driverThrow) →
        history.countP isDispatch ≤ start.policy.reasonerCalls) := by
  obtain ⟨hleaves, -, -⟩ := capped_of_run hstart hrun
  refine ⟨hleaves.within, fun hthrow => ?_⟩
  have hcounted := dispatches_of_run hrun hthrow
  have hcalls : s.object.usage.reasonerCalls + inCall s.control ≤ start.policy.reasonerCalls := by
    cases hcontrol : s.control with
    | calling turn =>
        rw [hcontrol] at hleaves
        exact Open.reasonerCalls hleaves
    | _ => exact hleaves.within.reasonerCalls
  omega

end Dispatches

def onceDeps : AgentRuntimeDeps :=
  { sampleDeps with budgetPolicy := { sampleDeps.budgetPolicy with reasonerCalls := 1 } }

def onceStart : State := ⟨.create onceDeps, .idle, none, 0⟩

def twiceHistory : List Event :=
  [.run none 0, .loopHead 0, .dispatch ⟨0, 0, 0⟩, .driverThrow, .slept, .turnEnd 0, .loopHead 0,
    .dispatch ⟨0, 0, 0⟩]

def calledHistory : List Event :=
  [.run none 0, .loopHead 0, .dispatch ⟨0, 0, 0⟩, .failed 0 0 .timeout]

/-- A call that threw leaves the cap as it was: a second one is dispatched. -/
theorem thrown_call_not_capped : ∃ s, Run (runtimeSystem plainRuntime emptyArgumentsDigest
      (.create onceDeps) 0) twiceHistory s ∧
    (RuntimeObject.create onceDeps).policy.reasonerCalls = 1 ∧
    twiceHistory.countP isDispatch = 2 := by
  have hevaluated : (evaluate (advance plainRuntime emptyArgumentsDigest) onceStart
      twiceHistory).isSome = true := by
    decide +kernel
  obtain ⟨s, hs⟩ := Option.isSome_iff_exists.mp hevaluated
  exact ⟨s, run_of_evaluate hs, rfl, rfl⟩

theorem within_once : Within (RuntimeObject.create onceDeps).policy
    (counters (RuntimeObject.create onceDeps)) :=
  ⟨by decide, by decide, by decide, by decide, by decide, by decide, List.nodup_nil, by decide⟩

/-- The one call of a campaign that may call once. -/
theorem caps_hold_once : ∃ s : State,
    Within (RuntimeObject.create onceDeps).policy (counters s.object) ∧
      calledHistory.countP isDispatch ≤ (RuntimeObject.create onceDeps).policy.reasonerCalls := by
  have hevaluated : (evaluate (restrict (advance plainRuntime emptyArgumentsDigest)
      (Keeps (RuntimeObject.create onceDeps).policy)) onceStart calledHistory).isSome = true := by
    decide +kernel
  obtain ⟨s, hs⟩ := Option.isSome_iff_exists.mp hevaluated
  obtain ⟨hwithin, hdispatches⟩ := caps_hold within_once (guarded_run_of_evaluate hs)
  exact ⟨s, hwithin, hdispatches (by simp [calledHistory])⟩

end NightWatch.AgentRuntime.CapRuns
