import NightWatch.AgentRuntime.Turns

namespace NightWatch.AgentRuntime.LogRuns

open Lib.JsText Lib.JsData Lib.JsDocuments Lib.JsRuntime Lib.Guard Lib.Machine
  AgentProtocol.Vocabulary AgentProtocol.Actions AgentProtocol.Validate AgentRuntime.ToolResults
  AgentRuntime.State AgentRuntime.Checkpoint AgentRuntime.Runtime AgentRuntime.Turns

/-- A record of no tool call. -/
structure Plain (record : AgentActionRecord) : Prop where
  notCall : record.intentKind ≠ "CALL_TOOL".toList
  toolId : record.toolId = none
  notError : record.resultClass ≠ toolError
  notRepeat : record.resultClass ≠ dedupedRepeat

def isCall : Event → Bool
  | .discard _ => true
  | .executed _ _ => true
  | _ => false

inductive LogMove : List AgentActionRecord → Event → List AgentActionRecord → Prop
  | same {log : List AgentActionRecord} {e : Event} (hcall : isCall e = false) : LogMove log e log
  | noted {log : List AgentActionRecord} {e : Event} {record : AgentActionRecord}
      (hcall : isCall e = false) (hplain : Plain record) : LogMove log e (log ++ [record])
  | discarded (o : RuntimeObject) (turnId : JsString) (id : CallId) :
      LogMove o.actionLog (.discard id)
        (o.actionLog ++ [o.discardEntry turnId id.tool id.argumentDigest])
  | executed (o : RuntimeObject) (turnId : JsString) (id : CallId) (raw : JsValue) :
      LogMove o.actionLog (.executed id raw) (o.actionLog ++
        [o.toolEntry turnId id.tool id.argumentDigest (normalizeToolResult raw)])

section Restoring

variable {rt : Runtime} {checkpoint : AgentCheckpoint}

variable (rt) (o : RuntimeObject)

/-- A checkpoint changes the byte ledger alone and saves the state that it leaves. -/
theorem checkpoint_frame : ∃ byteLedger, (o.checkpoint rt).1 = { o with byteLedger } ∧
    ∀ checkpoint, (o.checkpoint rt).2 = some checkpoint →
      checkpoint.state = { o.snapshot with byteLedger } := by
  unfold RuntimeObject.checkpoint
  cases hcreate : createCheckpoint rt o.snapshot o.completedTurns with
  | error e => exact ⟨o.byteLedger, rfl, by simp⟩
  | ok checkpoint =>
      obtain ⟨bytes, hstate⟩ := state_of_createCheckpoint hcreate
      refine ⟨checkpoint.state.byteLedger, rfl, ?_⟩
      rintro _ ⟨⟩
      rw [hstate]
      rfl

theorem log_of_checkpoint : (o.checkpoint rt).1.actionLog = o.actionLog ∧
      ∀ checkpoint, (o.checkpoint rt).2 = some checkpoint →
        checkpoint.state.actionLog = o.actionLog := by
  obtain ⟨byteLedger, hframe, hsaved⟩ := checkpoint_frame rt o
  rw [hframe]
  exact ⟨rfl, fun checkpoint h => congrArg AgentRuntimeState.actionLog (hsaved checkpoint h)⟩

variable {rt}

theorem field_of_parseRuntimeState {fields state : Fields}
    (h : parseRuntimeState (.obj fields) = .ok state) {name : JsString}
    (hbudget : name ≠ "budget".toList) (hledger : name ≠ "byteLedger".toList) :
    JsValue.field state name = JsValue.field fields name := by
  rw [parseRuntimeState] at h
  simp only [bind_eq_ok] at h
  obtain ⟨-, -, -, -, -, -, ⟨policy, usage⟩, -, hstate⟩ := h
  obtain rfl := Except.ok.inj hstate
  split
  · rw [JsValue.field, lookup_mapSet, if_neg hledger, lookup_mapSet, if_neg hbudget]
    rfl
  · rw [JsValue.field, lookup_mapSet, if_neg hbudget]
    rfl

variable {deps : AgentRuntimeDeps} {object : RuntimeObject}

theorem restored_of_resume
    (h : resumeFromCheckpoint rt (checkpointDocument checkpoint) deps = some object) :
    ∃ fields state completedTurns,
      parseRuntimeState (.obj (stateFields checkpoint.state)) = .ok fields ∧
        readState fields = some state ∧ object = .restored deps state completedTurns := by
  rw [resumeFromCheckpoint] at h
  split at h
  · contradiction
  · rename_i parsed hparsed
    have hfields : parseRuntimeState (.obj (stateFields checkpoint.state)) = .ok parsed.state := by
      rw [checkpointDocument, parseCheckpoint] at hparsed
      simp only [bind_eq_ok] at hparsed
      obtain ⟨-, -, -, -, -, -, state, hstate, hrest⟩ := hparsed
      split at hrest
      · contradiction
      · simp only [bind_eq_ok] at hrest
        obtain ⟨-, -, -, -, hresult⟩ := hrest
        obtain rfl := Except.ok.inj hresult
        exact hstate
    split at h
    · contradiction
    · split at h
      · contradiction
      · obtain ⟨state, hstate, hobject⟩ := Option.bind_eq_some_iff.mp h
        rw [constructRestored] at hobject
        split_ifs at hobject
        exact ⟨_, state, _, hfields, hstate, (Option.some.inj hobject).symm⟩

theorem log_of_resume
    (h : resumeFromCheckpoint rt (checkpointDocument checkpoint) deps = some object) :
    object.actionLog = checkpoint.state.actionLog := by
  obtain ⟨fields, state, completedTurns, hfields, hstate, rfl⟩ := restored_of_resume h
  exact (recovers_list fun record _ => recovers_record record).unique
    (reads_of_readState hstate).actionLog
    (field_of_parseRuntimeState hfields (by decide) (by decide))

end Restoring

section Steps

variable {rt : Runtime}

theorem toolError_ne_dedupedRepeat : toolError ≠ dedupedRepeat := by decide

variable (o : RuntimeObject)

theorem formDrafts_actionLog (drafts : List ReasonerHypothesisDraft) :
    (o.formDrafts drafts).actionLog = o.actionLog := by
  obtain ⟨hypotheses, evidenceRefs, hframe⟩ := formDrafts_frame o drafts
  rw [hframe]

theorem unpaused_actionLog : (RuntimeObject.unpaused o).actionLog = o.actionLog := by
  obtain ⟨status, terminationReason, hframe⟩ := unpaused_frame o
  rw [hframe]

theorem plain_entry (turnId intentKind resultClass : JsString)
    (evidenceRefs : List JsString) (hkind : intentKind ≠ "CALL_TOOL".toList)
    (herror : resultClass ≠ toolError) (hrepeat : resultClass ≠ dedupedRepeat) :
    Plain (o.entry turnId intentKind resultClass evidenceRefs) :=
  ⟨hkind, rfl, herror, hrepeat⟩

theorem logMove_applyIntent (turnId : JsString) (intent : AgentIntent) :
    LogMove o.actionLog .applyIntent (o.applyIntent turnId intent).1.actionLog := by
  cases intent with
  | terminate reason =>
      refine .noted rfl (plain_entry o turnId "TERMINATE".toList
        ("TERMINATED_".toList ++ reason.text) [] (by decide) ?_ ?_)
      · cases reason <;> decide
      · cases reason <;> decide
  | formHypothesis hypothesisId statement evidenceRefs =>
      simp only [RuntimeObject.applyIntent]
      split
      · exact .noted rfl (plain_entry o turnId _ _ [] (by decide) (by decide) (by decide))
      · exact .noted rfl (plain_entry _ turnId _ _ _ (by decide) (by decide) (by decide))
  | proposeCandidate candidateId evidenceRefs =>
      simp only [RuntimeObject.applyIntent]
      split
      · exact .noted rfl (plain_entry _ turnId _ _ _ (by decide) (by decide) (by decide))
      · exact .noted rfl (plain_entry o turnId _ _ [] (by decide) (by decide) (by decide))
  | rejectCandidate candidateId reason =>
      exact .noted rfl (plain_entry _ turnId _ _ [] (by decide) (by decide) (by decide))
  | _ => exact .noted rfl (plain_entry o turnId _ _ [] (by decide) (by decide) (by decide))

variable (rt) in
theorem applyToolResult_actionLog (turnId : JsString) (tool : AgentToolId)
    (argumentDigest : JsString) (result : AgentToolResult) :
    (o.applyToolResult rt turnId tool argumentDigest result).actionLog =
      o.actionLog ++ [o.toolEntry turnId tool argumentDigest result] := by
  have hlearn : ∀ o' : RuntimeObject, (o'.learn tool result).actionLog = o'.actionLog ∧
      (o'.learn tool result).phase = o'.phase := by
    intro o'
    unfold RuntimeObject.learn
    split
    · exact ⟨rfl, rfl⟩
    · exact ⟨rfl, rfl⟩
  have hcharge : ∀ o' : RuntimeObject, (o'.chargeTool rt result).actionLog = o'.actionLog ∧
      (o'.chargeTool rt result).phase = o'.phase := by
    intro o'
    unfold RuntimeObject.chargeTool
    dsimp only
    split
    · exact ⟨rfl, rfl⟩
    · exact ⟨rfl, rfl⟩
  have hverdict : ∀ (o' : RuntimeObject) (target resultClass : JsString),
      (o'.applyReproductionVerdict target resultClass).actionLog = o'.actionLog := by
    intro o' target resultClass
    unfold RuntimeObject.applyReproductionVerdict
    split_ifs
    · rfl
    · rfl
    · rfl
  have hrecorded : ((((o.chargeTool rt result).addEvidence result.evidenceRefs).keepUntrusted
      result.untrusted).learn tool result).actionLog = o.actionLog := by
    rw [(hlearn _).1]
    exact (hcharge o).1
  have hphase : ((((o.chargeTool rt result).addEvidence result.evidenceRefs).keepUntrusted
      result.untrusted).learn tool result).phase = o.phase := by
    rw [(hlearn _).2]
    exact (hcharge o).2
  unfold RuntimeObject.applyToolResult
  dsimp only
  split
  · rw [hverdict]
    simp only [RuntimeObject.record, RuntimeObject.toolEntry, hrecorded, hphase]
  · simp only [RuntimeObject.record, RuntimeObject.toolEntry, hrecorded, hphase]

/-- The log of a checkpoint that can be resumed is that of the object. -/
def SavedLog (s : State) : Prop :=
  ∀ checkpoint, s.saved = some checkpoint → checkpoint.state.actionLog = s.object.actionLog

theorem savedLog_of_none {s : State} (h : s.saved = none) : SavedLog s := by
  intro checkpoint hsaved
  rw [h] at hsaved
  contradiction

theorem LogMove.of_eq {log log' : List AgentActionRecord} {e : Event} (hcall : isCall e = false)
    (hlog : log' = log) : LogMove log e log' := by
  rw [hlog]
  exact .same hcall

theorem refreshWallTime_actionLog (now : ℤ) : (o.refreshWallTime now).actionLog = o.actionLog := by
  unfold RuntimeObject.refreshWallTime
  split
  · rfl
  · rfl

theorem logMove_closeTurn (turn : Turn) (now : ℤ) :
    LogMove o.actionLog (.turnEnd now) (closeTurn o turn).1.actionLog := by
  unfold closeTurn
  split_ifs
  · exact .same rfl
  · exact .noted rfl (plain_entry o _ _ _ [] (by decide) (by decide) (by decide))
  · exact .same rfl

variable (rt) in
theorem log_of_finish (outcome : TerminalOutcome) (now : ℤ) :
    (finish rt o outcome now).1.actionLog = o.actionLog ∧
      ∀ checkpoint, (finish rt o outcome now).2 = some checkpoint →
        checkpoint.state.actionLog = o.actionLog := by
  have hclosed : (RuntimeObject.close (o.refreshWallTime now) outcome).actionLog = o.actionLog :=
    refreshWallTime_actionLog o now
  unfold finish
  split
  · obtain ⟨hlog, hsaved⟩ :=
      log_of_checkpoint rt (RuntimeObject.close (o.refreshWallTime now) outcome)
    exact ⟨hlog.trans hclosed, fun checkpoint h => (hsaved checkpoint h).trans hclosed⟩
  · exact ⟨hclosed, by simp⟩

theorem logMove_of_move {s s' : State} {e : Event} (hsaved : SavedLog s) (h : Move rt s e s') :
    LogMove s.object.actionLog e s'.object.actionLog ∧ SavedLog s' := by
  cases h with
  | run | runCancelled | haltCancelled | haltPaused | dispatch | throwCancelled | execute |
      answeredNothing | slept | sleepThrow | executorThrow | intentsDone | stop | pause | cancel =>
      exact ⟨.same rfl, savedLog_of_none rfl⟩
  | loopHead now =>
      exact ⟨.of_eq rfl (refreshWallTime_actionLog _ now), savedLog_of_none rfl⟩
  | refuse sizes hadmits =>
      exact ⟨.noted rfl (plain_entry _ _ _ _ [] (by decide) (by decide) (by decide)), savedLog_of_none rfl⟩
  | driverThrow hcancelled =>
      exact ⟨.noted rfl (plain_entry _ _ _ _ [] (by decide) (by decide) (by decide)), savedLog_of_none rfl⟩
  | failed stdoutBytes stderrBytes failure =>
      refine ⟨.noted rfl (plain_entry _ _ reasonerCall ("REASONER_".toList ++ failure.text) []
        (by decide) ?_ ?_), savedLog_of_none rfl⟩
      · cases failure <;> decide
      · cases failure <;> decide
  | blocked stdoutBytes stderrBytes response failure =>
      refine ⟨.noted rfl (plain_entry _ _ "BLOCKED".toList
        ("SAFETY_BLOCKED_".toList ++ failure.text) [] (by decide) ?_ ?_), savedLog_of_none rfl⟩
      · cases failure <;> decide
      · cases failure <;> decide
  | rejected stdoutBytes stderrBytes response failure =>
      refine ⟨.noted rfl (plain_entry _ _ "REASONER_RESPONSE".toList
        ("REJECTED_".toList ++ failure.text) [] (by decide) ?_ ?_), savedLog_of_none rfl⟩
      · cases failure <;> decide
      · cases failure <;> decide
  | accepted stdoutBytes stderrBytes response accepted =>
      exact ⟨.of_eq rfl (formDrafts_actionLog _ accepted.hypotheses), savedLog_of_none rfl⟩
  | applyIntent intent hintent => exact ⟨logMove_applyIntent _ _ intent, savedLog_of_none rfl⟩
  | discard id hdiscards => exact ⟨.discarded _ _ id, savedLog_of_none rfl⟩
  | @executed o saved clock turn rest replanned call raw =>
      refine ⟨?_, savedLog_of_none rfl⟩
      have hlog := applyToolResult_actionLog rt o turn.turnId call.id.tool
        call.id.argumentDigest (normalizeToolResult raw)
      change LogMove o.actionLog _ (o.applyToolResult rt turn.turnId call.id.tool
        call.id.argumentDigest (normalizeToolResult raw)).actionLog
      rw [hlog]
      exact .executed o turn.turnId call.id raw
  | @turnEnd o saved clock turn now =>
      refine ⟨?_, savedLog_of_none rfl⟩
      have hmove := logMove_closeTurn ((RuntimeObject.nextTurn o).refreshWallTime now) turn now
      rw [refreshWallTime_actionLog] at hmove
      exact hmove
  | @finish o saved clock outcome now =>
      obtain ⟨hlog, hcheckpoint⟩ := log_of_finish rt o outcome now
      refine ⟨.of_eq rfl hlog, ?_⟩
      intro checkpoint h
      exact (hcheckpoint checkpoint h).trans hlog.symm
  | resume hwaits =>
      refine ⟨.of_eq rfl ?_, savedLog_of_none rfl⟩
      exact unpaused_actionLog s.object
  | checkpoint hwaits =>
      obtain ⟨hlog, hcheckpoint⟩ := log_of_checkpoint rt s.object
      refine ⟨.of_eq rfl hlog, ?_⟩
      intro checkpoint h
      exact (hcheckpoint checkpoint h).trans hlog.symm
  | @restore _ saved object deps hwaits hpresent hresumed =>
      refine ⟨.of_eq rfl ?_, savedLog_of_none rfl⟩
      exact (log_of_resume hresumed).trans (hsaved saved hpresent)

variable {argumentDigest : Fields → JsString}

theorem log_of_run {fits : List AgentActionRecord → Event → Prop}
    {P : List Event → List AgentActionRecord → Prop} (hstart : P [] [])
    (hstep : ∀ past log e log', P past log → fits log e → LogMove log e log' →
      P (past ++ [e]) log') {deps : AgentRuntimeDeps} {clock : ℤ} {history : List Event} {s : State}
    (hrun : Run ((runtimeSystem rt argumentDigest (.create deps) clock).guarded
      fun s e => fits s.object.actionLog e) history s) : P history s.object.actionLog := by
  have hboth := hrun.invariant (P := fun past s => P past s.object.actionLog ∧ SavedLog s)
    ⟨hstart, savedLog_of_none rfl⟩ ?_
  · exact hboth.1
  · rintro past before e after ⟨hpast, hsaved⟩ ⟨hadvance, hfits⟩
    obtain ⟨hmove, hsaved'⟩ := logMove_of_move hsaved (move_of_advance hadvance)
    exact ⟨hstep past _ e _ hpast hfits hmove, hsaved'⟩

end Steps

end NightWatch.AgentRuntime.LogRuns
