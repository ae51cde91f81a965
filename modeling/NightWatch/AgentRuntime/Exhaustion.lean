import NightWatch.AgentRuntime.LogRuns

namespace NightWatch.AgentRuntime.Exhaustion

open Lib.JsText Lib.JsData Lib.JsRuntime Lib.Machine Lib.StepFunction AgentProtocol.Vocabulary
  AgentProtocol.Actions AgentProtocol.Validate AgentRuntime.ToolResults AgentRuntime.State
  AgentRuntime.Runtime AgentRuntime.Turns AgentRuntime.LogRuns

variable {tool tool' : AgentToolId}

theorem text_injective (h : tool.text = tool'.text) : tool = tool' := by
  have hlookup : ∀ tool : AgentToolId, lookupAgentTool tool.text = some tool := by
    intro tool
    cases tool <;> decide
  exact Option.some.inj ((hlookup tool).symm.trans ((congrArg _ h).trans (hlookup tool')))

theorem call_of_fingerprint {argumentDigest argumentDigest' : JsString}
    (h : actionFingerprint (callKey tool argumentDigest) =
      actionFingerprint (callKey tool' argumentDigest')) :
    tool = tool' ∧ argumentDigest = argumentDigest' := by
  have htext : ∀ tool : AgentToolId, '|' ∉ tool.text := by
    intro tool
    cases tool <;> decide
  have htexts : "CALL_TOOL".toList ++ '|' :: tool.text ++ '|' :: argumentDigest =
      "CALL_TOOL".toList ++ '|' :: tool'.text ++ '|' :: argumentDigest' := h
  rw [List.append_assoc, List.append_assoc] at htexts
  have hsplit : splitFirst '|' (tool.text ++ '|' :: argumentDigest) =
      splitFirst '|' (tool'.text ++ '|' :: argumentDigest') :=
    congrArg _ (List.cons.inj (List.append_cancel_left htexts)).2
  rw [splitFirst_append (htext tool), splitFirst_append (htext tool')] at hsplit
  obtain ⟨htool, hdigest⟩ := Prod.mk.inj (Option.some.inj hsplit)
  exact ⟨text_injective htool, hdigest⟩

section Records

variable {fingerprint : JsString} {log : List AgentActionRecord}

def isFinal (record : AgentActionRecord) : Bool :=
  record.resultClass = dedupedRepeat ||
    (record.resultClass = toolError && record.disposition ≠ some .transientRetryable)

def isRetryable (record : AgentActionRecord) : Bool :=
  record.resultClass = toolError && record.disposition = some .transientRetryable

def retryableCount (fingerprint : JsString) (log : List AgentActionRecord) : Nat :=
  log.countP fun record => actionFingerprint record.key = fingerprint && isRetryable record

def hasFinal (fingerprint : JsString) (log : List AgentActionRecord) : Bool :=
  log.any fun record => actionFingerprint record.key = fingerprint && isFinal record

theorem exhaustedFrom_iff {found : Nat} (hfound : found < transientActionRetryBudget) :
    exhaustedFrom fingerprint found log = true ↔ hasFinal fingerprint log = true ∨
        transientActionRetryBudget ≤ found + retryableCount fingerprint log := by
  induction log generalizing found with
  | nil => simp [exhaustedFrom, hasFinal, retryableCount, hfound]
  | cons record rest ih =>
      rw [exhaustedFrom, hasFinal, retryableCount, List.any_cons, List.countP_cons]
      have hrest := @ih found hfound
      rw [hasFinal, retryableCount] at hrest
      by_cases hsame : actionFingerprint record.key = fingerprint
      · rw [if_pos hsame]
        by_cases hrepeat : record.resultClass = dedupedRepeat
        · simp [hrepeat, hsame, isFinal]
        · rw [if_neg hrepeat]
          by_cases herror : record.resultClass = toolError
          · rw [if_pos herror]
            have hne : toolError ≠ dedupedRepeat := toolError_ne_dedupedRepeat
            cases hdisposition : record.disposition with
            | none => simp [hsame, isFinal, herror, hdisposition]
            | some disposition =>
                cases disposition with
                | deterministicTerminal => simp [hsame, isFinal, herror, hdisposition]
                | environmentBlocked => simp [hsame, isFinal, herror, hdisposition]
                | transientRetryable =>
                    have hfinal : isFinal record = false := by
                      simp [isFinal, herror, hdisposition, hne]
                    have hretryable : isRetryable record = true := by
                      simp [isRetryable, herror, hdisposition]
                    simp only [hsame, hfinal, hretryable, Option.getD_some, decide_true,
                      Bool.true_and, Bool.false_or, if_true]
                    split
                    case isTrue hspent =>
                      refine ⟨fun _ => .inr (by omega), fun _ => rfl⟩
                    case isFalse hremains =>
                      have hnext := @ih (found + 1) (by omega)
                      rw [hasFinal, retryableCount] at hnext
                      rw [hnext]
                      refine or_congr Iff.rfl ?_
                      constructor
                      · intro h
                        omega
                      · intro h
                        omega
          · rw [if_neg herror, hrest]
            simp [isFinal, isRetryable, hrepeat, herror]
      · rw [if_neg hsame, hrest]
        simp [hsame]

theorem detectExhaustedAction_iff {key : ActionKey} : detectExhaustedAction log key = true ↔
      hasFinal (actionFingerprint key) log = true ∨
        transientActionRetryBudget ≤ retryableCount (actionFingerprint key) log := by
  rw [detectExhaustedAction, exhaustedFrom_iff (by decide), Nat.zero_add]

theorem hasFinal_concat (record : AgentActionRecord) :
    hasFinal fingerprint (log ++ [record]) = (hasFinal fingerprint log ||
      (actionFingerprint record.key = fingerprint && isFinal record)) := by
  simp [hasFinal]

theorem retryableCount_concat (record : AgentActionRecord) :
    retryableCount fingerprint (log ++ [record]) = retryableCount fingerprint log +
      if actionFingerprint record.key = fingerprint && isRetryable record then 1 else 0 := by
  simp [retryableCount, List.countP_append, List.countP_cons]

end Records

section Executions

def resultOf (id : CallId) : Event → Option AgentToolResult
  | .executed id' raw => if id' = id then some (normalizeToolResult raw) else none
  | _ => none

def executions (history : List Event) (id : CallId) : List AgentToolResult :=
  history.filterMap (resultOf id)

/-- A deterministic or environment-blocked failure; a failure without a disposition is
deterministic. -/
def failedForGood (result : AgentToolResult) : Bool :=
  !result.ok && result.disposition ≠ some .transientRetryable

def failedTransiently (result : AgentToolResult) : Bool :=
  !result.ok && result.disposition = some .transientRetryable

/-- One failure for good, or as many transient ones as the budget allows. -/
def Spent (results : List AgentToolResult) : Prop :=
  (∃ result ∈ results, failedForGood result = true) ∨
    transientActionRetryBudget ≤ results.countP failedTransiently

theorem executions_concat (history : List Event) (e : Event) (id : CallId) :
    executions (history ++ [e]) id = executions history id ++ (resultOf id e).toList := by
  rw [executions, executions, List.filterMap_append]
  cases h : resultOf id e with
  | none => simp [h]
  | some result => simp [h]

theorem spent_append {results : List AgentToolResult} (h : Spent results)
    (others : List AgentToolResult) : Spent (results ++ others) := by
  rcases h with ⟨result, hmem, hfailed⟩ | hbudget
  · exact .inl ⟨result, List.mem_append_left others hmem, hfailed⟩
  · refine .inr ?_
    rw [List.countP_append]
    omega

/-- What the log must allow: a discarded call is exhausted already, and a success does not
bear the class of a failure or of a discard. -/
def Fits (log : List AgentActionRecord) : Event → Prop
  | .discard id => detectExhaustedAction log (callKey id.tool id.argumentDigest) = true
  | .executed _ raw => (normalizeToolResult raw).ok = true →
      (normalizeToolResult raw).resultClass ≠ toolError ∧
        (normalizeToolResult raw).resultClass ≠ dedupedRepeat
  | _ => True

instance (log : List AgentActionRecord) : (e : Event) → Decidable (Fits log e)
  | .discard _ => inferInstanceAs (Decidable (_ = true))
  | .executed _ _ => inferInstanceAs (Decidable (_ → _))
  | .run _ _ | .runCancelled | .halt | .loopHead _ | .dispatch _ | .refuse _ | .driverThrow
  | .failed _ _ _ | .answered _ _ _ | .slept | .sleepThrow | .applyIntent | .execute _
  | .executorThrow _ | .intentsDone | .stop | .turnEnd _ | .finish _ | .pause | .resume
  | .cancel | .checkpoint | .restore _ => .isTrue trivial

def printOf (id : CallId) : JsString := actionFingerprint (callKey id.tool id.argumentDigest)

variable {id : CallId} {o : RuntimeObject}

theorem printOf_eq_iff {id' : CallId} : printOf id = printOf id' ↔ id = id' := by
  constructor
  · intro h
    obtain ⟨htool, hdigest⟩ := call_of_fingerprint h
    obtain ⟨tool, argumentDigest⟩ := id
    exact congrArg₂ CallId.mk htool hdigest
  · rintro rfl
    rfl

/-- What a log says of the answers of the run that wrote it. -/
structure Tells (history : List Event) (log : List AgentActionRecord) : Prop where
  counted : ∀ id, retryableCount (printOf id) log = (executions history id).countP failedTransiently
  spent : ∀ id, hasFinal (printOf id) log = true → Spent (executions history id)
  final : ∀ id, (∃ result ∈ executions history id, failedForGood result = true) →
    hasFinal (printOf id) log = true

variable {history : List Event} {log : List AgentActionRecord}

theorem Tells.exhausted_iff (h : Tells history log) (id : CallId) :
    detectExhaustedAction log (callKey id.tool id.argumentDigest) = true ↔
      Spent (executions history id) := by
  rw [detectExhaustedAction_iff]
  change hasFinal (printOf id) log = true ∨
    transientActionRetryBudget ≤ retryableCount (printOf id) log ↔ _
  rw [h.counted id]
  constructor
  · rintro (hfinal | hbudget)
    · exact h.spent id hfinal
    · exact .inr hbudget
  · rintro (hfailed | hbudget)
    · exact .inl (h.final id hfailed)
    · exact .inr hbudget

theorem executions_silent (history : List Event) {e : Event} (hcall : isCall e = false)
    (id : CallId) : executions (history ++ [e]) id = executions history id := by
  have hnone : resultOf id e = none := by
    cases e with
    | executed id' raw => cases hcall
    | _ => rfl
  rw [executions_concat, hnone]
  simp

theorem Tells.noted (h : Tells history log) {e : Event} {record : AgentActionRecord}
    (hcall : isCall e = false) (hplain : Plain record) :
    Tells (history ++ [e]) (log ++ [record]) := by
  have hfinal : isFinal record = false := by simp [isFinal, hplain.notError, hplain.notRepeat]
  have hretryable : isRetryable record = false := by simp [isRetryable, hplain.notError]
  have hresult := executions_silent history hcall
  refine ⟨?_, ?_, ?_⟩
  · intro id
    rw [retryableCount_concat, hresult, hretryable, h.counted id]
    simp
  · intro id
    rw [hasFinal_concat, hresult, hfinal, Bool.and_false, Bool.or_false]
    exact h.spent id
  · intro id
    rw [hasFinal_concat, hresult, hfinal, Bool.and_false, Bool.or_false]
    exact h.final id

theorem Tells.same (h : Tells history log) {e : Event} (hcall : isCall e = false) :
    Tells (history ++ [e]) log := by
  have hresult := executions_silent history hcall
  refine ⟨?_, ?_, ?_⟩
  · intro id
    rw [hresult]
    exact h.counted id
  · intro id
    rw [hresult]
    exact h.spent id
  · intro id
    rw [hresult]
    exact h.final id

theorem Tells.discarded {turnId : JsString}
    (h : Tells history o.actionLog) (hfits : Fits o.actionLog (.discard id)) :
    Tells (history ++ [.discard id])
      (o.actionLog ++ [o.discardEntry turnId id.tool id.argumentDigest]) := by
  have hkey : actionFingerprint (o.discardEntry turnId id.tool id.argumentDigest).key =
      printOf id := rfl
  have hretryable : isRetryable (o.discardEntry turnId id.tool id.argumentDigest) = false := by
    have hne : dedupedRepeat ≠ toolError := toolError_ne_dedupedRepeat.symm
    simp [isRetryable, RuntimeObject.discardEntry, hne]
  have hresult : ∀ other, executions (history ++ [.discard id]) other =
      executions history other := by
    intro other
    rw [executions_concat]
    exact List.append_nil _
  refine ⟨?_, ?_, ?_⟩
  · intro other
    rw [retryableCount_concat, hresult, hretryable, h.counted other]
    simp
  · intro other hfinal
    rw [hresult]
    rw [hasFinal_concat, hkey, Bool.or_eq_true_iff] at hfinal
    rcases hfinal with hfinal | hnew
    · exact h.spent other hfinal
    · obtain rfl := printOf_eq_iff.mp (of_decide_eq_true (Bool.and_eq_true_iff.mp hnew).1)
      exact (h.exhausted_iff id).mp hfits
  · intro other hfailed
    rw [hresult] at hfailed
    rw [hasFinal_concat, h.final other hfailed, Bool.true_or]

theorem answer_marks (turnId : JsString) {id : CallId} {raw : JsValue}
    (hfits : Fits o.actionLog (.executed id raw)) :
    isFinal (o.toolEntry turnId id.tool id.argumentDigest (normalizeToolResult raw)) =
        failedForGood (normalizeToolResult raw) ∧
      isRetryable (o.toolEntry turnId id.tool id.argumentDigest (normalizeToolResult raw)) =
        failedTransiently (normalizeToolResult raw) := by
  have hne : toolError ≠ dedupedRepeat := toolError_ne_dedupedRepeat
  cases hok : (normalizeToolResult raw).ok with
  | true =>
      obtain ⟨herror, hrepeat⟩ := hfits hok
      simp [isFinal, isRetryable, failedForGood, failedTransiently, RuntimeObject.toolEntry,
        recordedClass, hok, herror, hrepeat]
  | false =>
      simp [isFinal, isRetryable, failedForGood, failedTransiently, RuntimeObject.toolEntry,
        recordedClass, hok, hne]

theorem Tells.executed {turnId : JsString} {raw : JsValue}
    (h : Tells history o.actionLog) (hfits : Fits o.actionLog (.executed id raw)) :
    Tells (history ++ [.executed id raw]) (o.actionLog ++
      [o.toolEntry turnId id.tool id.argumentDigest (normalizeToolResult raw)]) := by
  obtain ⟨hfinal, hretryable⟩ := answer_marks turnId hfits
  have hkey : actionFingerprint (o.toolEntry turnId id.tool id.argumentDigest
      (normalizeToolResult raw)).key = printOf id := rfl
  have hother : ∀ other, other ≠ id → executions (history ++ [.executed id raw]) other =
      executions history other ∧ printOf id ≠ printOf other := by
    intro other hne
    have hnone : resultOf other (.executed id raw) = none := if_neg hne.symm
    rw [executions_concat, hnone]
    exact ⟨List.append_nil _, fun hsame => hne (printOf_eq_iff.mp hsame).symm⟩
  have hthis : executions (history ++ [.executed id raw]) id =
      executions history id ++ [normalizeToolResult raw] := by
    have hsome : resultOf id (.executed id raw) = some (normalizeToolResult raw) := if_pos rfl
    rw [executions_concat, hsome]
    rfl
  refine ⟨?_, ?_, ?_⟩
  · intro other
    rw [retryableCount_concat, hkey, hretryable]
    by_cases hsame : other = id
    · subst hsame
      rw [hthis, List.countP_append, h.counted other]
      simp [List.countP_cons]
    · obtain ⟨hexecutions, hprint⟩ := hother other hsame
      rw [hexecutions, h.counted other]
      simp [hprint]
  · intro other
    rw [hasFinal_concat, hkey, hfinal, Bool.or_eq_true_iff]
    by_cases hsame : other = id
    · subst hsame
      rw [hthis]
      rintro (hold | hnew)
      · exact spent_append (h.spent other hold) _
      · exact .inl ⟨normalizeToolResult raw, by simp, (Bool.and_eq_true_iff.mp hnew).2⟩
    · obtain ⟨hexecutions, hprint⟩ := hother other hsame
      rw [hexecutions]
      rintro (hold | hnew)
      · exact h.spent other hold
      · exact absurd (of_decide_eq_true (Bool.and_eq_true_iff.mp hnew).1) hprint
  · intro other
    rw [hasFinal_concat, hkey, hfinal]
    by_cases hsame : other = id
    · subst hsame
      rw [hthis]
      rintro ⟨result, hmem, hfailed⟩
      rcases List.mem_append.mp hmem with hold | hnew
      · rw [h.final other ⟨result, hold, hfailed⟩, Bool.true_or]
      · obtain rfl := List.mem_singleton.mp hnew
        simp [hfailed]
    · obtain ⟨hexecutions, -⟩ := hother other hsame
      rw [hexecutions]
      intro hfailed
      rw [h.final other hfailed, Bool.true_or]

theorem Tells.step {log' : List AgentActionRecord} {e : Event} (h : Tells history log)
    (hfits : Fits log e) (hmove : LogMove log e log') : Tells (history ++ [e]) log' := by
  cases hmove with
  | same hcall => exact h.same hcall
  | noted hcall hplain => exact h.noted hcall hplain
  | discarded o turnId id => exact h.discarded hfits
  | executed o turnId id raw => exact h.executed hfits

end Executions

section Runs

variable {rt : Runtime} {argumentDigest : Fields → JsString} {deps : AgentRuntimeDeps} {clock : ℤ}
  {history : List Event} {s : State}

theorem tells_of_run (hrun : Run ((runtimeSystem rt argumentDigest (.create deps) clock).guarded
    fun s e => Fits s.object.actionLog e) history s) : Tells history s.object.actionLog := by
  refine log_of_run ?_ ?_ hrun
  · exact ⟨fun _ => rfl, by simp [hasFinal], by simp [executions]⟩
  · intro past log e log' htells hfits hmove
    exact htells.step hfits hmove

/-- In a run whose steps fit the log, a call is refused for good exactly when its executions
have used up its attempts, and the executor is asked only for calls that have some left. -/
theorem exhausted_iff_spent
    (hrun : Run ((runtimeSystem rt argumentDigest (.create deps) clock).guarded
      fun s e => Fits s.object.actionLog e) history s) :
    (∀ id, detectExhaustedAction s.object.actionLog (callKey id.tool id.argumentDigest) = true ↔
      Spent (executions history id)) ∧
    ∀ i id, history[i]? = some (.execute id) → ¬ Spent (executions (history.take i) id) := by
  refine ⟨(tells_of_run hrun).exhausted_iff, ?_⟩
  intro i id hi
  obtain ⟨before, after, hpast, hadvance, -⟩ := hrun.at hi
  rw [← (tells_of_run hpast).exhausted_iff id]
  cases move_of_advance hadvance with
  | execute call hcall hdiscards =>
      rw [RuntimeObject.discards, Bool.or_eq_false_iff] at hdiscards
      exact Bool.eq_false_iff.mp hdiscards.2

/-- What an event has to leave in the log: the call and the class of its result. -/
def called : Event → Option (JsString × JsString × JsString)
  | .discard id => some (id.tool.text, id.argumentDigest, dedupedRepeat)
  | .executed id raw =>
      some (id.tool.text, id.argumentDigest, recordedClass (normalizeToolResult raw))
  | _ => none

def recorded (record : AgentActionRecord) : Option (JsString × JsString × JsString) :=
  if record.intentKind = "CALL_TOOL".toList then
    record.toolId.bind fun tool =>
      record.argumentDigest.map fun digest => (tool, digest, record.resultClass)
  else none

theorem recorded_of_logMove {log log' : List AgentActionRecord} {e : Event}
    (h : LogMove log e log') :
    log'.filterMap recorded = log.filterMap recorded ++ (called e).toList := by
  have hnone (hcall : isCall e = false) : called e = none := by
    cases e <;> first | rfl | contradiction
  cases h with
  | same hcall => rw [hnone hcall, Option.toList_none, List.append_nil]
  | @noted _ _ record hcall hplain =>
      have hplain : recorded record = none := if_neg hplain.notCall
      rw [List.filterMap_append, hnone hcall, List.filterMap_cons_none hplain]
      rfl
  | discarded | executed => exact List.filterMap_append

/-- The calls in the log of a run, resumes included, are those that the run executed or
discarded, in their order and with the classes of their results. -/
theorem log_is_a_record (hrun : Run (runtimeSystem rt argumentDigest (.create deps) clock)
    history s) : s.object.actionLog.filterMap recorded = history.filterMap called := by
  have hboth := hrun.invariant (P := fun past s =>
    s.object.actionLog.filterMap recorded = past.filterMap called ∧ SavedLog s)
      ⟨rfl, savedLog_of_none rfl⟩ ?_
  · exact hboth.1
  · rintro past before e after ⟨hpast, hsaved⟩ hadvance
    obtain ⟨hmove, hsaved'⟩ := logMove_of_move hsaved (move_of_advance hadvance)
    refine ⟨?_, hsaved'⟩
    rw [recorded_of_logMove hmove, hpast, List.filterMap_append, List.filterMap_cons]
    cases called e <;> rfl

end Runs

def sampleDeps : AgentRuntimeDeps where
  campaignId := "campaign".toList
  budgetPolicy := ⟨"CEILING".toList, 600000, 100, 100000, 100000, 100000, 100, 1000, 10, 10, 10, 10⟩
  authorizedEnvironments := none
  allowedToolIds := none
  maxTurns := none
  priorSurface := .undefined
  spendCeiling := none

def emptyArgumentsDigest (arguments : Fields) : JsString :=
  if arguments = [] then "arg:empty".toList else "arg:other".toList

def inspectCall : CallId := ⟨.inspectSourceSurface, "arg:empty".toList⟩

def rerunCall : CallId := ⟨.rerunSafeReproduction, "arg:empty".toList⟩

def callsResponse (calls : List CallId) : JsValue :=
  .obj [("schemaVersion".toList, .str reasonerTurnResponseVersion),
    ("intents".toList, .arr (calls.map fun id =>
      .obj [("kind".toList, .str "CALL_TOOL".toList), ("toolId".toList, .str id.tool.text),
        ("arguments".toList, .obj [])])),
    ("hypotheses".toList, .arr [.obj [("hypothesisId".toList, .str "h1".toList),
      ("statement".toList, .str "It fails.".toList),
      ("evidenceRefs".toList, .arr [.str "ref:1".toList])]])]

def onTarget : JsValue := .obj [("target".toList, .str "src/app.ts".toList)]

def sourceRead : JsValue :=
  .obj [("resultClass".toList, .str "SOURCE_FILE".toList),
    ("evidenceRefs".toList, .arr [.str "ref:1".toList]), ("memory".toList, onTarget)]

def reproduced : JsValue :=
  .obj [("resultClass".toList, .str "REPRODUCED".toList), ("memory".toList, onTarget)]

def unavailable : JsValue :=
  .obj [("ok".toList, .bool false), ("disposition".toList, .str "TRANSIENT_RETRYABLE".toList),
    ("memory".toList, onTarget)]

def sourceTurn (calls : List CallId) : List Event :=
  [.run none 0, .loopHead 0, .dispatch ⟨0, 0, 0⟩,
    .answered 0 0 (callsResponse (inspectCall :: calls)), .execute inspectCall,
    .executed inspectCall sourceRead]

def rerunWith (raw : JsValue) : List Event := [.execute rerunCall, .executed rerunCall raw]

def repeatedHistory : List Event :=
  sourceTurn [rerunCall, rerunCall, rerunCall, rerunCall] ++ rerunWith reproduced ++
    rerunWith reproduced ++ rerunWith reproduced ++ [.discard rerunCall]

def retriedHistory : List Event := sourceTurn [rerunCall] ++ rerunWith unavailable

def sampleStart : State := ⟨.create sampleDeps, .idle, none, 0⟩

instance (results : List AgentToolResult) : Decidable (Spent results) :=
  inferInstanceAs (Decidable (_ ∨ _))

/-- A call whose executions all succeeded is refused for good once a repeat was discarded. -/
theorem repeated_success_exhausted : ∃ s, Run (runtimeSystem plainRuntime emptyArgumentsDigest
      (.create sampleDeps) 0) repeatedHistory s ∧ detectExhaustedAction s.object.actionLog
      (callKey rerunCall.tool rerunCall.argumentDigest) = true ∧
    (∀ result ∈ executions repeatedHistory rerunCall, result.ok = true) ∧
    ¬ Spent (executions repeatedHistory rerunCall) := by
  have hevaluated : (evaluate (advance plainRuntime emptyArgumentsDigest) sampleStart
      repeatedHistory).any (fun s => detectExhaustedAction s.object.actionLog
        (callKey rerunCall.tool rerunCall.argumentDigest)) = true := by
    decide +kernel
  obtain ⟨s, hs, hexhausted⟩ := (Option.any_eq_true _ _).mp hevaluated
  exact ⟨s, run_of_evaluate hs, hexhausted, by decide +kernel, by decide +kernel⟩

theorem log_is_a_record_repeated : ∃ s : State,
    s.object.actionLog.filterMap recorded = repeatedHistory.filterMap called := by
  have hevaluated : (evaluate (advance plainRuntime emptyArgumentsDigest) sampleStart
      repeatedHistory).isSome = true := by
    decide +kernel
  obtain ⟨s, hs⟩ := Option.isSome_iff_exists.mp hevaluated
  exact ⟨s, log_is_a_record (run_of_evaluate hs)⟩

/-- One transient failure leaves a call its retry. -/
theorem exhausted_iff_spent_retried : ∃ s : State, detectExhaustedAction s.object.actionLog
      (callKey rerunCall.tool rerunCall.argumentDigest) = false ∧
    (∀ id, detectExhaustedAction s.object.actionLog (callKey id.tool id.argumentDigest) = true ↔
      Spent (executions retriedHistory id)) ∧ ∀ i id, retriedHistory[i]? = some (.execute id) →
      ¬ Spent (executions (retriedHistory.take i) id) := by
  have hevaluated : (evaluate (restrict (advance plainRuntime emptyArgumentsDigest)
      fun s e => Fits s.object.actionLog e) sampleStart retriedHistory).any (fun s =>
        !detectExhaustedAction s.object.actionLog
          (callKey rerunCall.tool rerunCall.argumentDigest)) = true := by
    decide +kernel
  obtain ⟨s, hs, hremains⟩ := (Option.any_eq_true _ _).mp hevaluated
  obtain ⟨hexhausted, hexecuted⟩ := exhausted_iff_spent (guarded_run_of_evaluate hs)
  exact ⟨s, by simpa using hremains, hexhausted, hexecuted⟩

end NightWatch.AgentRuntime.Exhaustion
