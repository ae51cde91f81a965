import NightWatch.AgentRuntime.ProviderRuns

namespace NightWatch.AgentRuntime.Outages

open Lib.JsText Lib.JsData Lib.JsRuntime Lib.Machine Lib.StepFunction AgentProtocol.Vocabulary
  AgentProtocol.Actions AgentProtocol.Budget AgentProtocol.Validate AgentRuntime.ToolResults
  AgentRuntime.State AgentRuntime.Checkpoint AgentRuntime.Runtime AgentRuntime.Turns
  AgentRuntime.LogRuns
open AgentRuntime.ProviderRuns (SavedTally savedTally_of_none tally tallied tally_of_move
  tally_refreshWallTime)
open AgentRuntime.Exhaustion (sampleDeps emptyArgumentsDigest sampleStart)

section Windows

variable {log : List AgentActionRecord}

def callPrint : JsString := actionFingerprint ⟨reasonerCall, none, none⟩

def isFailedCall (record : AgentActionRecord) : Bool :=
  actionFingerprint record.key == callPrint

def failedInARow (log : List AgentActionRecord) : Nat := streak log callPrint

theorem le_takeWhile_iff {α : Type} {p : α → Bool} {n : Nat} {l : List α} :
    n ≤ (l.takeWhile p).length ↔ n ≤ l.length ∧ ∀ a ∈ l.take n, p a = true := by
  induction l generalizing n with
  | nil => simp
  | cons first rest ih =>
      cases n with
      | zero => simp
      | succ n =>
          by_cases hfirst : p first = true
          · rw [List.takeWhile_cons_of_pos hfirst, List.length_cons, List.length_cons,
              Nat.add_le_add_iff_right, Nat.add_le_add_iff_right, ih, List.take_succ_cons]
            simp [hfirst]
          · simp [hfirst]

theorem failedInARow_iff : noProgressWindow ≤ failedInARow log ↔ noProgressWindow ≤ log.length ∧
      ∀ record ∈ log.drop (log.length - noProgressWindow), isFailedCall record = true := by
  rw [failedInARow, streak, le_takeWhile_iff, List.take_reverse, List.length_reverse]
  simp only [List.mem_reverse]
  rfl

/-- Records of failed calls bring no evidence. -/
def Inert (record : AgentActionRecord) : Prop :=
  isFailedCall record = true → producedEvidence record = false

def EndsInFailedCall (log : List AgentActionRecord) : Prop :=
  ∃ past record, log = past ++ [record] ∧ isFailedCall record = true

theorem EndsInFailedCall.mem_window (h : EndsInFailedCall log)
    (hlength : noProgressWindow ≤ log.length) :
    ∃ record ∈ log.drop (log.length - noProgressWindow), isFailedCall record = true := by
  obtain ⟨past, record, rfl, hcall⟩ := h
  refine ⟨record, ?_, hcall⟩
  have hpast : (past ++ [record]).length - noProgressWindow ≤ past.length := by
    rw [List.length_append, List.length_singleton, noProgressWindow]
    omega
  rw [List.drop_append_of_le_length hpast]
  exact List.mem_append_right _ (List.mem_singleton_self record)

theorem detectNoProgress_iff (hinert : ∀ record ∈ log, Inert record)
    (hends : EndsInFailedCall log) :
    detectNoProgress log = true ↔ noProgressWindow ≤ failedInARow log := by
  rw [failedInARow_iff, detectNoProgress]
  rcases Nat.lt_or_ge log.length noProgressWindow with hshort | hlong
  · rw [if_pos hshort]
    constructor
    · intro h
      contradiction
    · rintro ⟨hlong, -⟩
      omega
  · obtain ⟨last, hlast, hcall⟩ := hends.mem_window hlong
    rw [if_neg (Nat.not_lt.mpr hlong)]
    dsimp only
    have hsub : ∀ record ∈ log.drop (log.length - noProgressWindow), record ∈ log :=
      fun record => List.mem_of_mem_drop
    generalize log.drop (log.length - noProgressWindow) = window at hlast hsub
    constructor
    · intro h
      refine ⟨hlong, ?_⟩
      split_ifs at h
      cases window with
      | nil => contradiction
      | cons first rest =>
          simp only [List.all_eq_true, beq_iff_eq] at h
          intro record hrecord
          have hsame : actionFingerprint record.key = actionFingerprint last.key :=
            (h record hrecord).trans (h last hlast).symm
          rw [isFailedCall, hsame]
          exact hcall
    · rintro ⟨-, hcalls⟩
      have hnone : window.any producedEvidence = false := by
        rw [List.any_eq_false]
        intro record hrecord
        rw [hinert record (hsub record hrecord) (hcalls record hrecord)]
        decide
      rw [hnone, if_neg (by decide)]
      cases window with
      | nil => contradiction
      | cons first rest =>
          simp only [List.all_eq_true, beq_iff_eq]
          intro record hrecord
          have hfirst := hcalls first List.mem_cons_self
          have hother := hcalls record hrecord
          rw [isFailedCall, beq_iff_eq] at hfirst hother
          rw [hfirst, hother]

end Windows

section Records

variable {rt : Runtime} {log log' : List AgentActionRecord} {e : Event}

def failsCall : Event → Bool
  | .failed _ _ _ => true
  | .driverThrow => true
  | _ => false

/-- What a step adds to the log: nothing, or one record, of a failed call only where the
call has failed. -/
def Adds (log : List AgentActionRecord) (e : Event) (log' : List AgentActionRecord) : Prop :=
  log' = log ∨ ∃ record, log' = log ++ [record] ∧ Inert record ∧
    (isFailedCall record = true → failsCall e = true)

variable {record : AgentActionRecord}

theorem Adds.other (hlog : log' = log ++ [record])
    (h : isFailedCall record = false) : Adds log e log' := by
  refine .inr ⟨record, hlog, ?_, ?_⟩
  · intro hcall
    rw [h] at hcall
    contradiction
  · intro hcall
    rw [h] at hcall
    contradiction

variable (o : RuntimeObject)

theorem isFailedCall_entry (turnId intentKind resultClass : JsString)
    (evidenceRefs : List JsString) :
    isFailedCall (o.entry turnId intentKind resultClass evidenceRefs) =
      (actionFingerprint ⟨intentKind, none, none⟩ == callPrint) := rfl

theorem isFailedCall_of_tool
    (h : record.intentKind = "CALL_TOOL".toList) : isFailedCall record = false := by
  rw [isFailedCall, beq_eq_false_iff_ne]
  intro heq
  have hhead : (actionFingerprint record.key).head? = some 'C' := by
    rw [AgentActionRecord.key, actionFingerprint, h]
    rfl
  rw [heq] at hhead
  contradiction

theorem adds_applyIntent (turnId : JsString) (intent : AgentIntent) :
    Adds o.actionLog .applyIntent (o.applyIntent turnId intent).1.actionLog := by
  cases intent with
  | formHypothesis hypothesisId statement evidenceRefs =>
      simp only [RuntimeObject.applyIntent]
      split
      · exact .other rfl (by rw [isFailedCall_entry]; decide)
      · exact .other rfl (by rw [isFailedCall_entry]; decide)
  | proposeCandidate candidateId evidenceRefs =>
      simp only [RuntimeObject.applyIntent]
      split
      · exact .other rfl (by rw [isFailedCall_entry]; decide)
      · exact .other rfl (by rw [isFailedCall_entry]; decide)
  | _ => exact .other rfl (by rw [isFailedCall_entry]; decide)

theorem adds_closeTurn (turn : Turn) : Adds o.actionLog e (closeTurn o turn).1.actionLog := by
  unfold closeTurn
  split_ifs
  · exact .inl rfl
  · exact .other rfl (by rw [isFailedCall_entry]; decide)
  · exact .inl rfl

theorem adds_noteFailed (turn : Turn) (stdoutBytes stderrBytes : Nat)
    (failure : ReasonerFailureClass) : Adds o.actionLog (.failed stdoutBytes stderrBytes failure)
      (RuntimeObject.noteFailed o turn stdoutBytes stderrBytes failure).actionLog := by
  refine .inr ⟨_, rfl, ?_, fun _ => rfl⟩
  intro _
  cases failure <;> rfl

variable (rt) in
theorem adds_toolResult (turnId : JsString) (tool : AgentToolId)
    (argumentDigest : JsString) (result : AgentToolResult) :
    Adds o.actionLog e (o.applyToolResult rt turnId tool argumentDigest result).actionLog := by
  rw [applyToolResult_actionLog]
  exact .other rfl (isFailedCall_of_tool rfl)

theorem adds_of_move {s s' : State} (hsaved : SavedLog s) (h : Move rt s e s') :
    Adds s.object.actionLog e s'.object.actionLog := by
  cases h with
  | run | runCancelled | haltCancelled | haltPaused | dispatch | throwCancelled | execute |
      answeredNothing | slept | sleepThrow | executorThrow | intentsDone | stop | pause | cancel =>
      exact .inl rfl
  | loopHead now => exact .inl (refreshWallTime_actionLog _ now)
  | refuse sizes hadmits => exact .other rfl (by rw [isFailedCall_entry]; decide)
  | driverThrow hcancelled => exact .inr ⟨_, rfl, fun _ => rfl, fun _ => rfl⟩
  | failed stdoutBytes stderrBytes failure =>
      exact adds_noteFailed _ _ stdoutBytes stderrBytes failure
  | blocked | rejected => exact .other rfl (by rw [isFailedCall_entry]; decide)
  | accepted stdoutBytes stderrBytes response accepted =>
      exact .inl (formDrafts_actionLog _ accepted.hypotheses)
  | applyIntent intent hintent => exact adds_applyIntent _ _ intent
  | discard id hdiscards => exact .other rfl (isFailedCall_of_tool rfl)
  | executed call raw => exact adds_toolResult rt _ _ _ _ _
  | @turnEnd o saved clock turn now =>
      have hadds : Adds ((RuntimeObject.nextTurn o).refreshWallTime now).actionLog
          (.turnEnd now) _ := adds_closeTurn _ turn
      rw [refreshWallTime_actionLog] at hadds
      exact hadds
  | finish now => exact .inl (log_of_finish rt _ _ now).1
  | resume hwaits =>
      refine .inl ?_
      exact unpaused_actionLog s.object
  | checkpoint hwaits => exact .inl (log_of_checkpoint rt s.object).1
  | @restore _ saved object deps hwaits hpresent hresumed =>
      exact .inl ((log_of_resume hresumed).trans (hsaved saved hpresent))

end Records

section Turns

variable {rt : Runtime}

def noteCall (failed : Bool) : Event → Bool
  | .failed _ _ _ => true
  | .driverThrow => true
  | .answered _ _ _ => false
  | _ => failed

def lastCallFailed (history : List Event) : Bool := history.foldl noteCall false

theorem lastCallFailed_concat (history : List Event) (e : Event) :
    lastCallFailed (history ++ [e]) = noteCall (lastCallFailed history) e := by
  rw [lastCallFailed, List.foldl_append]
  rfl

/-- Where a turn stands whose call has failed. -/
def Settling (log : List AgentActionRecord) : Control → Prop
  | .backingOff _ => EndsInFailedCall log
  | .turnEnd _ none => EndsInFailedCall log
  | .intents _ _ _ => False
  | .executing _ _ _ _ => False
  | _ => True

theorem settling_enterTurn (log : List AgentActionRecord) (o : RuntimeObject)
    (maxTurns : JsNumber) : Settling log (enterTurn o maxTurns) := by
  unfold enterTurn
  split_ifs
  · trivial
  · trivial
  · trivial

theorem settling_closeTurn (log : List AgentActionRecord) (o : RuntimeObject) (turn : Turn) :
    Settling log (closeTurn o turn).2 := by
  unfold closeTurn
  split_ifs
  · trivial
  · trivial
  · trivial

theorem settling_of_move {s s' : State} {e : Event} {failed : Bool}
    (hsettling : failed = true → Settling s.object.actionLog s.control) (h : Move rt s e s') :
    noteCall failed e = true → Settling s'.object.actionLog s'.control := by
  intro hfailed
  cases h with
  | run | runCancelled | haltCancelled | haltPaused | dispatch | refuse | throwCancelled
  | sleepThrow | stop | finish | executorThrow => trivial
  | loopHead now => exact settling_enterTurn _ _ _
  | driverThrow hcancelled => exact ⟨_, _, rfl, rfl⟩
  | failed stdoutBytes stderrBytes failure =>
      change Settling _ (afterFailure _ failure)
      rw [afterFailure]
      split
      · trivial
      · exact ⟨_, _, rfl, rfl⟩
  | answeredNothing | blocked | rejected | accepted => contradiction
  | slept => exact hsettling hfailed
  | applyIntent | discard | execute | intentsDone | executed => exact (hsettling hfailed).elim
  | turnEnd now => exact settling_closeTurn _ _ _
  | pause hwaits => exact hsettling hfailed
  | cancel hwaits => exact hsettling hfailed
  | resume hwaits =>
      change Settling (RuntimeObject.unpaused s.object).actionLog s.control
      rw [unpaused_actionLog]
      exact hsettling hfailed
  | checkpoint hwaits =>
      change Settling (s.object.checkpoint rt).1.actionLog s.control
      rw [(log_of_checkpoint rt s.object).1]
      exact hsettling hfailed
  | restore deps => trivial

end Turns

section Counts

variable {rt : Runtime} {argumentDigest : Fields → JsString}

theorem failures_of_move {s s' : State} {e : Event} (hsaved : SavedTally s) (h : Move rt s e s') :
    SavedTally s' ∧ s.object.usage.providerFailures ≤ s'.object.usage.providerFailures ∧
      (failsCall e = true → s'.object.actionLog = s.object.actionLog ∨
        s'.object.usage.providerFailures = s.object.usage.providerFailures + 1) := by
  by_cases hthrow : e = .driverThrow
  · subst hthrow
    cases h with
    | throwCancelled => exact ⟨savedTally_of_none rfl, le_rfl, fun _ => .inl rfl⟩
    | driverThrow => exact ⟨savedTally_of_none rfl, Nat.le_succ _, fun _ => .inr rfl⟩
  · obtain ⟨htally, hsaved'⟩ := tally_of_move hsaved h hthrow
    have hfailures : s'.object.usage.providerFailures =
        s.object.usage.providerFailures + (tallied e).2 := congrArg Prod.snd htally
    refine ⟨hsaved', by omega, ?_⟩
    intro hfails
    cases e with
    | failed => exact .inr hfailures
    | driverThrow => exact absurd rfl hthrow
    | _ => contradiction

/-- The log, the turn under way and the failures, beside the history. -/
structure Accounted (history : List Event) (s : State) : Prop where
  inert : ∀ record ∈ s.object.actionLog, Inert record
  counted : s.object.actionLog.countP isFailedCall ≤ s.object.usage.providerFailures
  settling : lastCallFailed history = true → Settling s.object.actionLog s.control
  savedLog : SavedLog s
  savedTally : SavedTally s

theorem inert_of_adds {log log' : List AgentActionRecord} {e : Event} (h : Adds log e log')
    (hinert : ∀ record ∈ log, Inert record) : ∀ record ∈ log', Inert record := by
  rcases h with rfl | ⟨added, rfl, hadded, -⟩
  · exact hinert
  · intro record hrecord
    rcases List.mem_append.mp hrecord with hold | hnew
    · exact hinert record hold
    · rw [List.mem_singleton.mp hnew]
      exact hadded

theorem Accounted.step {history : List Event} {s s' : State} {e : Event}
    (h : Accounted history s) (hmove : Move rt s e s') : Accounted (history ++ [e]) s' := by
  have hadds := adds_of_move h.savedLog hmove
  obtain ⟨hsaved, hgrows, hfails⟩ := failures_of_move h.savedTally hmove
  have hcounted := h.counted
  refine ⟨inert_of_adds hadds h.inert, ?_, ?_, (logMove_of_move h.savedLog hmove).2, hsaved⟩
  · rcases hadds with hsame | ⟨record, hlog, -, hcall⟩
    · rw [hsame]
      omega
    · rw [hlog, List.countP_append, List.countP_singleton]
      split
      · rename_i hrecord
        rcases hfails (hcall hrecord) with hsame | hcharged
        · rw [hsame] at hlog
          exact absurd (congrArg List.length hlog) (by simp)
        · omega
      · omega
  · rw [lastCallFailed_concat]
    exact settling_of_move h.settling hmove

theorem accounted_of_run {deps : AgentRuntimeDeps} {clock : ℤ} {history : List Event} {s : State}
    (hrun : Run (runtimeSystem rt argumentDigest (.create deps) clock) history s) :
    Accounted history s := by
  have hstart : Accounted [] ⟨.create deps, .idle, none, clock⟩ := by
    refine ⟨?_, Nat.zero_le _, ?_, savedLog_of_none rfl, savedTally_of_none rfl⟩
    · intro record hrecord
      contradiction
    · intro hfailed
      contradiction
  refine hrun.invariant hstart ?_
  intro past before e after hpast hadvance
  exact hpast.step (move_of_advance hadvance)

end Counts

section Ends

variable {rt : Runtime} {argumentDigest : Fields → JsString} {deps : AgentRuntimeDeps} {clock : ℤ}
  {history : List Event} {s s' : State} {now : ℤ} (o : RuntimeObject)

theorem usage_nextTurn (now : ℤ) :
    ((RuntimeObject.nextTurn o).refreshWallTime now).usage = (o.refreshWallTime now).usage := by
  obtain hnone | ⟨start, hsome⟩ := Option.eq_none_or_eq_some o.runStartMs
  · simp only [RuntimeObject.refreshWallTime, RuntimeObject.nextTurn, hnone]
  · simp only [RuntimeObject.refreshWallTime, RuntimeObject.nextTurn, hsome]

theorem policy_refreshWallTime (now : ℤ) : (o.refreshWallTime now).policy = o.policy := by
  unfold RuntimeObject.refreshWallTime
  split
  · rfl
  · rfl

theorem closeTurn_noProgress_iff (turn : Turn) : (closeTurn o turn).2 = .finishing noProgressStop ↔
      budgetExhausted o.policy o.usage = false ∧ detectNoProgress o.actionLog = true := by
  have hdistinct : budgetStop ≠ noProgressStop := by decide
  unfold closeTurn
  split_ifs with hexhausted hstuck
  · simp [hexhausted, hdistinct]
  · simp [hexhausted, hstuck]
  · simp [hexhausted, hstuck]

theorem noProgress_of_outage_iff
    (hrun : Run (runtimeSystem rt argumentDigest (.create deps) clock) history s)
    (hfailed : lastCallFailed history = true)
    (hend : advance rt argumentDigest s (.turnEnd now) = some s') :
    s'.control = .finishing noProgressStop ↔
      budgetExhausted s.object.policy (s.object.refreshWallTime now).usage = false ∧
        noProgressWindow ≤ failedInARow s.object.actionLog := by
  have haccounted := accounted_of_run hrun
  have hsettling := haccounted.settling hfailed
  have hinert := haccounted.inert
  cases move_of_advance hend with
  | @turnEnd o saved clock turn now =>
      have hlog : ((RuntimeObject.nextTurn o).refreshWallTime now).actionLog = o.actionLog :=
        refreshWallTime_actionLog _ now
      have hpolicy : ((RuntimeObject.nextTurn o).refreshWallTime now).policy = o.policy :=
        policy_refreshWallTime _ now
      have hends : EndsInFailedCall o.actionLog := hsettling
      change (closeTurn ((RuntimeObject.nextTurn o).refreshWallTime now) turn).2 = _ ↔ _
      rw [closeTurn_noProgress_iff, hlog, hpolicy, usage_nextTurn,
        detectNoProgress_iff hinert hends]

/-- A turn whose call has failed does not end the run for want of progress, exactly when the
budget is spent or fewer than six failed calls stand in a row. -/
theorem outage_ends_iff
    (hrun : Run (runtimeSystem rt argumentDigest (.create deps) clock) history s)
    (hfailed : lastCallFailed history = true)
    (hend : advance rt argumentDigest s (.turnEnd now) = some s') :
    s'.control ≠ .finishing noProgressStop ↔
      budgetExhausted s.object.policy (s.object.refreshWallTime now).usage = true ∨
        failedInARow s.object.actionLog < noProgressWindow := by
  rw [Ne, noProgress_of_outage_iff hrun hfailed hend, not_and_or, Bool.not_eq_false, Nat.not_le]

end Ends

def timedOutTurn : List Event :=
  [.loopHead 0, .dispatch ⟨0, 0, 0⟩, .failed 0 0 .timeout, .slept]

def firstOutage : List Event := .run none 0 :: timedOutTurn

theorem outage_ends_iff_firstOutage : ∃ s s' : State,
    advance plainRuntime emptyArgumentsDigest s (.turnEnd 0) = some s' ∧
    (s'.control ≠ .finishing noProgressStop ↔
      budgetExhausted s.object.policy (s.object.refreshWallTime 0).usage = true ∨
        failedInARow s.object.actionLog < noProgressWindow) := by
  have hevaluated : ((evaluate (advance plainRuntime emptyArgumentsDigest) sampleStart
      firstOutage).bind fun s =>
        (advance plainRuntime emptyArgumentsDigest s (.turnEnd 0)).map fun s' =>
          (s, s')).isSome = true := by
    decide +kernel
  obtain ⟨⟨s, s'⟩, hboth⟩ := Option.isSome_iff_exists.mp hevaluated
  obtain ⟨before, hs, hrest⟩ := Option.bind_eq_some_iff.mp hboth
  obtain ⟨after, hend, hpair⟩ := Option.map_eq_some_iff.mp hrest
  exact ⟨before, after, hend, outage_ends_iff (run_of_evaluate hs) rfl hend⟩

def sixTimeouts : List Event :=
  .run none 0 :: ((List.replicate 5 (timedOutTurn ++ [.turnEnd 0])).flatten ++ timedOutTurn)

def failureCounts (usage : AgentBudgetUsage) : Nat × Nat × Nat :=
  (usage.failures, usage.consecutiveFailures, usage.providerFailures)

def endsWithoutProgress : Control → Bool
  | .finishing outcome => outcome = noProgressStop
  | _ => false

/-- The sixth timeout ends the run though the ceilings of failures stand at ten. -/
theorem six_timeouts_end_the_run : ∃ s s' : State,
    Run (runtimeSystem plainRuntime emptyArgumentsDigest (.create sampleDeps) 0) sixTimeouts s ∧
    lastCallFailed sixTimeouts = true ∧
    advance plainRuntime emptyArgumentsDigest s (.turnEnd 0) = some s' ∧
    s'.control = .finishing noProgressStop ∧ failureCounts s'.object.usage = (6, 6, 6) ∧
    (sampleDeps.budgetPolicy.failures = 10 ∧ sampleDeps.budgetPolicy.consecutiveFailures = 10 ∧
      sampleDeps.budgetPolicy.providerFailures = 10) := by
  have hevaluated : ((evaluate (advance plainRuntime emptyArgumentsDigest) sampleStart
      sixTimeouts).bind fun s =>
        (advance plainRuntime emptyArgumentsDigest s (.turnEnd 0)).map fun s' =>
          (endsWithoutProgress s'.control, failureCounts s'.object.usage)) =
            some (true, 6, 6, 6) := by
    decide +kernel
  obtain ⟨s, hs, hrest⟩ := Option.bind_eq_some_iff.mp hevaluated
  obtain ⟨s', hend, hpair⟩ := Option.map_eq_some_iff.mp hrest
  obtain ⟨hstopped, hcounts⟩ := Prod.mk.inj hpair
  have hcontrol : s'.control = .finishing noProgressStop := by
    cases hcase : s'.control with
    | finishing outcome =>
        rw [hcase] at hstopped
        rw [of_decide_eq_true hstopped]
    | _ =>
        rw [hcase] at hstopped
        contradiction
  exact ⟨s, s', run_of_evaluate hs, rfl, hend, hcontrol, hcounts, rfl, rfl, rfl⟩

end NightWatch.AgentRuntime.Outages
