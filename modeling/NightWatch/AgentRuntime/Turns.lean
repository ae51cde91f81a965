import NightWatch.Lib.StepFunction
import NightWatch.AgentRuntime.Runtime

/-!
The loop of the runtime as a transition system. Between two points of control the code
runs without a pause; at each of them the environment acts: the clock is read, a call or
a sleep ends, or the object's owner pauses, resumes, cancels, checkpoints or restores.
-/

namespace NightWatch.AgentRuntime.Turns

open Lib.JsText Lib.JsData Lib.JsRuntime Lib.Machine Lib.StepFunction AgentProtocol.Vocabulary
  AgentProtocol.Actions AgentProtocol.Budget AgentProtocol.Validate AgentRuntime.ToolResults
  AgentRuntime.State AgentRuntime.Checkpoint AgentRuntime.Runtime

structure Turn where
  maxTurns : JsNumber
  turnId : JsString

structure CallId where
  tool : AgentToolId
  argumentDigest : JsString
  deriving DecidableEq

structure ToolCall where
  id : CallId
  arguments : Fields

inductive Control where
  | idle
  | head (maxTurns : JsNumber)
  | requesting (turn : Turn)
  | calling (turn : Turn)
  | backingOff (turn : Turn)
  | intents (turn : Turn) (rest : List AgentIntent) (replanned : Bool)
  | executing (turn : Turn) (call : ToolCall) (rest : List AgentIntent) (replanned : Bool)
  | turnEnd (turn : Turn) (terminal : Option TerminalOutcome)
  | finishing (outcome : TerminalOutcome)

def Control.waits : Control → Bool
  | head _ => false
  | requesting _ => false
  | finishing _ => false
  | _ => true

inductive Event where
  | run (maxTurns : Option JsNumber) (now : ℤ)
  | runCancelled
  | halt
  | loopHead (now : ℤ)
  | dispatch (sizes : RequestSizes)
  | refuse (sizes : RequestSizes)
  | driverThrow
  | failed (stdoutBytes stderrBytes : Nat) (failure : ReasonerFailureClass)
  | answered (stdoutBytes stderrBytes : Nat) (response : JsValue)
  | slept
  | sleepThrow
  | applyIntent
  | discard (id : CallId)
  | execute (id : CallId)
  | executed (id : CallId) (raw : JsValue)
  | executorThrow (id : CallId)
  | intentsDone
  | stop
  | turnEnd (now : ℤ)
  | finish (now : ℤ)
  | pause
  | resume
  | cancel
  | checkpoint
  | restore (deps : AgentRuntimeDeps)

/-- The object, the point of control, the checkpoint of the last step and the last instant of the
clock. A run follows one line of checkpoints: what an object does after the one its successor starts
from belongs to another run. -/
structure State where
  object : RuntimeObject
  control : Control
  saved : Option AgentCheckpoint
  clock : ℤ

def State.goto (s : State) (object : RuntimeObject) (control : Control) : State :=
  { s with object, control, saved := none }

def stateAt (now : ℤ) (object : RuntimeObject) (control : Control) : State :=
  ⟨object, control, none, now⟩

section Segments

/-- `run(options)` up to the loop. -/
def RuntimeObject.started (o : RuntimeObject) (now : ℤ) : RuntimeObject :=
  { o with status := .running, runStartMs := some now }

def turnIdFor (o : RuntimeObject) : JsString :=
  resumeCursorFor o.deps.campaignId (o.completedTurns + 1)

def cancelledStop : TerminalOutcome := ⟨.cancelled, false⟩

def pausedStop : TerminalOutcome := ⟨.paused, true⟩

def noProgressStop : TerminalOutcome := ⟨.noProgress, false⟩

def reasonerFailureStop : TerminalOutcome := ⟨.reasonerFailure, true⟩

def enterTurn (o : RuntimeObject) (maxTurns : JsNumber) : Control :=
  if budgetExhausted o.policy o.usage then .finishing budgetStop
  else if JsNumber.ge (.ofNat o.turnsThisRun) maxTurns then .finishing noProgressStop
  else .requesting ⟨maxTurns, turnIdFor o⟩

def reasonerCall : JsString := "REASONER_CALL".toList

def RuntimeObject.noteThrow (o : RuntimeObject) (turn : Turn) : RuntimeObject :=
  o.countProviderFailure.note turn.turnId reasonerCall "DRIVER_THROW".toList []

def RuntimeObject.noteFailed (o : RuntimeObject) (turn : Turn) (stdoutBytes stderrBytes : Nat)
    (failure : ReasonerFailureClass) : RuntimeObject :=
  (o.chargeResponse stdoutBytes stderrBytes).countProviderFailure.note turn.turnId reasonerCall
    ("REASONER_".toList ++ failure.text) []

def afterFailure (turn : Turn) (failure : ReasonerFailureClass) : Control :=
  if providerFailureNature failure = .permanent then .turnEnd turn (some reasonerFailureStop)
  else .backingOff turn

def RuntimeObject.noteBlocked (o : RuntimeObject) (turn : Turn) (failure : ReasonerFailureClass) :
    RuntimeObject :=
  o.note turn.turnId "BLOCKED".toList ("SAFETY_BLOCKED_".toList ++ failure.text) []

def RuntimeObject.noteRejected (o : RuntimeObject) (turn : Turn) (failure : ReasonerFailureClass) :
    RuntimeObject :=
  o.countFailure.note turn.turnId "REASONER_RESPONSE".toList
    ("REJECTED_".toList ++ failure.text) []

def RuntimeObject.accept (o : RuntimeObject) (response : ReasonerTurnResponse) : RuntimeObject :=
  ({ o with usage := { o.usage with consecutiveFailures := 0 } }).formDrafts response.hypotheses

def RuntimeObject.validationContext (o : RuntimeObject) (argumentDigest : Fields → JsString) :
    ReasonerValidationContext where
  authorizedEnvironments := o.deps.environments
  allowedToolIds := o.deps.toolIds
  argumentDigest := argumentDigest

def judge (argumentDigest : Fields → JsString) (o : RuntimeObject) (turn : Turn)
    (response : JsValue) : RuntimeObject × Control :=
  match validateReasonerTurnResponse (RuntimeObject.validationContext o argumentDigest)
      response with
  | .ok response => (RuntimeObject.accept o response, .intents turn response.intents false)
  | .error failure =>
      if failure ∈ safetyRejectionClasses then
        (RuntimeObject.noteBlocked o turn failure, .turnEnd turn (some safetyBlocked))
      else (RuntimeObject.noteRejected o turn failure, afterFailure turn failure)

def toolCallOf : AgentIntent → Option ToolCall
  | .callTool toolId argumentDigest arguments =>
      (lookupAgentTool toolId).map fun tool => ⟨⟨tool, argumentDigest⟩, arguments⟩
  | _ => none

def afterIntent (o : RuntimeObject) (turn : Turn) (rest : List AgentIntent) (replanned : Bool) :
    IntentOutcome → Control
  | .replanned => .intents turn rest true
  | .terminal outcome => .turnEnd turn (some outcome)
  | .continues =>
      if budgetExhausted o.policy o.usage then .turnEnd turn (some budgetStop)
      else .intents turn rest replanned

def RuntimeObject.nextTurn (o : RuntimeObject) : RuntimeObject :=
  { o with turnsThisRun := o.turnsThisRun + 1 }

def RuntimeObject.movePhase (o : RuntimeObject) (replanned : Bool) : RuntimeObject :=
  { o with phase := if replanned then .plan else nextPhase o.phase }

def closeTurn (o : RuntimeObject) (turn : Turn) : RuntimeObject × Control :=
  if budgetExhausted o.policy o.usage then (o, .finishing budgetStop)
  else if detectNoProgress o.actionLog then
    (o.note turn.turnId "NO_PROGRESS".toList "NO_PROGRESS_DETECTED".toList [],
      .finishing noProgressStop)
  else (o, .head turn.maxTurns)

def RuntimeObject.close (o : RuntimeObject) (outcome : TerminalOutcome) : RuntimeObject :=
  { o with
    terminationReason := some outcome.reason
    status := if outcome.reason = .paused then .paused else .terminated }

variable (rt : Runtime)

/-- `finish(outcome)`. -/
def finish (o : RuntimeObject) (outcome : TerminalOutcome) (now : ℤ) :
    RuntimeObject × Option AgentCheckpoint :=
  if outcome.withCheckpoint then
    (RuntimeObject.close (o.refreshWallTime now) outcome).checkpoint rt
  else (RuntimeObject.close (o.refreshWallTime now) outcome, none)

def RuntimeObject.unpaused (o : RuntimeObject) : RuntimeObject :=
  if o.status = .paused then
    { o with pausedRequested := false, status := .ready, terminationReason := none }
  else { o with pausedRequested := false }

theorem closeTurn_frame (o : RuntimeObject) (turn : Turn) :
    ∃ actionLog, (closeTurn o turn).1 = { o with actionLog } := by
  unfold closeTurn
  split_ifs
  · exact ⟨o.actionLog, rfl⟩
  · exact ⟨_, rfl⟩
  · exact ⟨o.actionLog, rfl⟩

theorem unpaused_frame (o : RuntimeObject) : ∃ status terminationReason,
    RuntimeObject.unpaused o = { o with pausedRequested := false, status, terminationReason } := by
  unfold RuntimeObject.unpaused
  split
  · exact ⟨_, _, rfl⟩
  · exact ⟨o.status, o.terminationReason, rfl⟩

end Segments

section Steps

variable (rt : Runtime) (argumentDigest : Fields → JsString)

/-- One step of the loop or of its owner; `none` where the event cannot happen. -/
def advance (s : State) : Event → Option State
  | .run maxTurns now =>
      match s.control with
      | .idle =>
          if s.object.status = .terminated ∨ s.object.cancelled = true then none
          else some (stateAt now (RuntimeObject.started s.object now)
            (.head (maxTurns.getD s.object.deps.turnCap)))
      | _ => none
  | .runCancelled =>
      match s.control with
      | .idle =>
          if s.object.status ≠ .terminated ∧ s.object.cancelled = true then
            some (s.goto s.object (.finishing cancelledStop))
          else none
      | _ => none
  | .halt =>
      match s.control with
      | .head _ =>
          if s.object.cancelled then some (s.goto s.object (.finishing cancelledStop))
          else if s.object.pausedRequested then some (s.goto s.object (.finishing pausedStop))
          else none
      | _ => none
  | .loopHead now =>
      match s.control with
      | .head maxTurns =>
          if s.object.cancelled ∨ s.object.pausedRequested then none
          else some (stateAt now (s.object.refreshWallTime now)
            (enterTurn (s.object.refreshWallTime now) maxTurns))
      | _ => none
  | .dispatch sizes =>
      match s.control with
      | .requesting turn =>
          if s.object.admits sizes then
            some (s.goto (s.object.buildRequest.chargeRequest sizes) (.calling turn))
          else none
      | _ => none
  | .refuse sizes =>
      match s.control with
      | .requesting turn =>
          if s.object.admits sizes then none
          else some (s.goto (s.object.buildRequest.note turn.turnId "BLOCKED".toList
            "SPEND_CEILING_REFUSED_BEFORE_REQUEST".toList []) (.turnEnd turn (some budgetStop)))
      | _ => none
  | .driverThrow =>
      match s.control with
      | .calling turn =>
          if s.object.cancelled then some (s.goto s.object (.turnEnd turn (some cancelledStop)))
          else some (s.goto (RuntimeObject.noteThrow s.object turn) (.backingOff turn))
      | _ => none
  | .failed stdoutBytes stderrBytes failure =>
      match s.control with
      | .calling turn =>
          some (s.goto (RuntimeObject.noteFailed s.object turn stdoutBytes stderrBytes failure)
            (afterFailure turn failure))
      | _ => none
  | .answered stdoutBytes stderrBytes response =>
      match s.control with
      | .calling turn =>
          let charged := s.object.chargeResponse stdoutBytes stderrBytes
          -- Measuring the bytes of nothing throws out of the run.
          if response.isUndefined then some (s.goto charged .idle)
          else
            let judged := judge argumentDigest (charged.measureResponse rt response) turn response
            some (s.goto judged.1 judged.2)
      | _ => none
  | .slept =>
      match s.control with
      | .backingOff turn => some (s.goto s.object (.turnEnd turn none))
      | _ => none
  | .sleepThrow =>
      match s.control with
      | .backingOff _ => some (s.goto s.object .idle)
      | _ => none
  | .applyIntent =>
      match s.control with
      | .intents turn (intent :: rest) replanned =>
          match toolCallOf intent with
          | some _ => none
          | none =>
              let applied := s.object.applyIntent turn.turnId intent
              some (s.goto applied.1 (afterIntent applied.1 turn rest replanned applied.2))
      | _ => none
  | .discard id =>
      match s.control with
      | .intents turn (intent :: rest) replanned =>
          if (toolCallOf intent).map ToolCall.id = some id ∧
              s.object.discards id.tool id.argumentDigest = true then
            let discarded := s.object.discardCall turn.turnId id.tool id.argumentDigest
            some (s.goto discarded (afterIntent discarded turn rest replanned .continues))
          else none
      | _ => none
  | .execute id =>
      match s.control with
      | .intents turn (intent :: rest) replanned =>
          match toolCallOf intent with
          | some call =>
              if call.id = id ∧ s.object.discards id.tool id.argumentDigest = false then
                some (s.goto s.object (.executing turn call rest replanned))
              else none
          | none => none
      | _ => none
  | .executed id raw =>
      match s.control with
      | .executing turn call rest replanned =>
          if call.id = id then
            let applied := s.object.applyToolResult rt turn.turnId id.tool id.argumentDigest
              (normalizeToolResult raw)
            some (s.goto applied (afterIntent applied turn rest replanned .continues))
          else none
      | _ => none
  | .executorThrow id =>
      match s.control with
      | .executing _ call _ _ => if call.id = id then some (s.goto s.object .idle) else none
      | _ => none
  | .intentsDone =>
      match s.control with
      | .intents turn [] replanned =>
          some (s.goto (RuntimeObject.movePhase s.object replanned) (.turnEnd turn none))
      | _ => none
  | .stop =>
      match s.control with
      | .turnEnd _ (some outcome) =>
          some (s.goto (RuntimeObject.nextTurn s.object) (.finishing outcome))
      | _ => none
  | .turnEnd now =>
      match s.control with
      | .turnEnd turn none =>
          let closed := closeTurn ((RuntimeObject.nextTurn s.object).refreshWallTime now) turn
          some (stateAt now closed.1 closed.2)
      | _ => none
  | .finish now =>
      match s.control with
      | .finishing outcome =>
          let finished := finish rt s.object outcome now
          some ⟨finished.1, .idle, finished.2, now⟩
      | _ => none
  | .pause =>
      if s.control.waits then some (s.goto { s.object with pausedRequested := true } s.control)
      else none
  | .resume =>
      if s.control.waits then some (s.goto (RuntimeObject.unpaused s.object) s.control) else none
  | .cancel =>
      if s.control.waits then some (s.goto { s.object with cancelled := true } s.control) else none
  | .checkpoint =>
      if s.control.waits then
        some ⟨(s.object.checkpoint rt).1, s.control, (s.object.checkpoint rt).2, s.clock⟩
      else none
  | .restore deps =>
      if s.control.waits then
        (s.saved.bind fun checkpoint =>
          resumeFromCheckpoint rt (checkpointDocument checkpoint) deps).map fun object =>
            s.goto object .idle
      else none

def runtimeSystem (start : RuntimeObject) (clock : ℤ) : System State Event :=
  ofFunction ⟨start, .idle, none, clock⟩ (advance rt argumentDigest)

end Steps

section Moves

variable (rt : Runtime) (argumentDigest : Fields → JsString)

/-- Everything a step can do. -/
inductive Move : State → Event → State → Prop
  | run {o : RuntimeObject} {saved : Option AgentCheckpoint} {clock : ℤ}
      (maxTurns : Option JsNumber) (now : ℤ) (hlive : o.status ≠ .terminated)
      (hcancelled : o.cancelled = false) :
      Move ⟨o, .idle, saved, clock⟩ (.run maxTurns now)
        (stateAt now (RuntimeObject.started o now) (.head (maxTurns.getD o.deps.turnCap)))
  | runCancelled {o : RuntimeObject} {saved : Option AgentCheckpoint} {clock : ℤ}
      (hlive : o.status ≠ .terminated) :
      Move ⟨o, .idle, saved, clock⟩ .runCancelled ⟨o, .finishing cancelledStop, none, clock⟩
  | haltCancelled {o : RuntimeObject} {saved : Option AgentCheckpoint} {clock : ℤ}
      {maxTurns : JsNumber} :
      Move ⟨o, .head maxTurns, saved, clock⟩ .halt ⟨o, .finishing cancelledStop, none, clock⟩
  | haltPaused {o : RuntimeObject} {saved : Option AgentCheckpoint} {clock : ℤ}
      {maxTurns : JsNumber} (hpaused : o.pausedRequested = true) :
      Move ⟨o, .head maxTurns, saved, clock⟩ .halt ⟨o, .finishing pausedStop, none, clock⟩
  | loopHead {o : RuntimeObject} {saved : Option AgentCheckpoint} {clock : ℤ}
      {maxTurns : JsNumber} (now : ℤ) :
      Move ⟨o, .head maxTurns, saved, clock⟩ (.loopHead now)
        (stateAt now (o.refreshWallTime now) (enterTurn (o.refreshWallTime now) maxTurns))
  | dispatch {o : RuntimeObject} {saved : Option AgentCheckpoint} {clock : ℤ} {turn : Turn}
      (sizes : RequestSizes) (hadmits : o.admits sizes = true) :
      Move ⟨o, .requesting turn, saved, clock⟩ (.dispatch sizes)
        ⟨o.buildRequest.chargeRequest sizes, .calling turn, none, clock⟩
  | refuse {o : RuntimeObject} {saved : Option AgentCheckpoint} {clock : ℤ} {turn : Turn}
      (sizes : RequestSizes) (hadmits : o.admits sizes = false) :
      Move ⟨o, .requesting turn, saved, clock⟩ (.refuse sizes)
        ⟨o.buildRequest.note turn.turnId "BLOCKED".toList
          "SPEND_CEILING_REFUSED_BEFORE_REQUEST".toList [], .turnEnd turn (some budgetStop), none,
          clock⟩
  | throwCancelled {o : RuntimeObject} {saved : Option AgentCheckpoint} {clock : ℤ} {turn : Turn}
      (hcancelled : o.cancelled = true) :
      Move ⟨o, .calling turn, saved, clock⟩ .driverThrow
        ⟨o, .turnEnd turn (some cancelledStop), none, clock⟩
  | driverThrow {o : RuntimeObject} {saved : Option AgentCheckpoint} {clock : ℤ} {turn : Turn}
      (hcancelled : o.cancelled = false) :
      Move ⟨o, .calling turn, saved, clock⟩ .driverThrow
        ⟨RuntimeObject.noteThrow o turn, .backingOff turn, none, clock⟩
  | failed {o : RuntimeObject} {saved : Option AgentCheckpoint} {clock : ℤ} {turn : Turn}
      (stdoutBytes stderrBytes : Nat) (failure : ReasonerFailureClass) :
      Move ⟨o, .calling turn, saved, clock⟩ (.failed stdoutBytes stderrBytes failure)
        ⟨RuntimeObject.noteFailed o turn stdoutBytes stderrBytes failure,
          afterFailure turn failure, none, clock⟩
  | answeredNothing {o : RuntimeObject} {saved : Option AgentCheckpoint} {clock : ℤ} {turn : Turn}
      (stdoutBytes stderrBytes : Nat) (response : JsValue) :
      Move ⟨o, .calling turn, saved, clock⟩ (.answered stdoutBytes stderrBytes response)
        ⟨o.chargeResponse stdoutBytes stderrBytes, .idle, none, clock⟩
  | blocked {o : RuntimeObject} {saved : Option AgentCheckpoint} {clock : ℤ} {turn : Turn}
      (stdoutBytes stderrBytes : Nat) (response : JsValue) (failure : ReasonerFailureClass) :
      Move ⟨o, .calling turn, saved, clock⟩ (.answered stdoutBytes stderrBytes response)
        ⟨RuntimeObject.noteBlocked ((o.chargeResponse stdoutBytes stderrBytes).measureResponse rt
          response) turn failure, .turnEnd turn (some safetyBlocked), none, clock⟩
  | rejected {o : RuntimeObject} {saved : Option AgentCheckpoint} {clock : ℤ} {turn : Turn}
      (stdoutBytes stderrBytes : Nat) (response : JsValue) (failure : ReasonerFailureClass) :
      Move ⟨o, .calling turn, saved, clock⟩ (.answered stdoutBytes stderrBytes response)
        ⟨RuntimeObject.noteRejected ((o.chargeResponse stdoutBytes stderrBytes).measureResponse rt
          response) turn failure, afterFailure turn failure, none, clock⟩
  | accepted {o : RuntimeObject} {saved : Option AgentCheckpoint} {clock : ℤ} {turn : Turn}
      (stdoutBytes stderrBytes : Nat) (response : JsValue) (accepted : ReasonerTurnResponse) :
      Move ⟨o, .calling turn, saved, clock⟩ (.answered stdoutBytes stderrBytes response)
        ⟨RuntimeObject.accept ((o.chargeResponse stdoutBytes stderrBytes).measureResponse rt
          response) accepted, .intents turn accepted.intents false, none, clock⟩
  | slept {o : RuntimeObject} {saved : Option AgentCheckpoint} {clock : ℤ} {turn : Turn} :
      Move ⟨o, .backingOff turn, saved, clock⟩ .slept ⟨o, .turnEnd turn none, none, clock⟩
  | sleepThrow {o : RuntimeObject} {saved : Option AgentCheckpoint} {clock : ℤ} {turn : Turn} :
      Move ⟨o, .backingOff turn, saved, clock⟩ .sleepThrow ⟨o, .idle, none, clock⟩
  | applyIntent {o : RuntimeObject} {saved : Option AgentCheckpoint} {clock : ℤ} {turn : Turn}
      {rest : List AgentIntent} {replanned : Bool} (intent : AgentIntent)
      (hintent : toolCallOf intent = none) :
      Move ⟨o, .intents turn (intent :: rest) replanned, saved, clock⟩ .applyIntent
        ⟨(o.applyIntent turn.turnId intent).1,
          afterIntent (o.applyIntent turn.turnId intent).1 turn rest replanned
            (o.applyIntent turn.turnId intent).2, none, clock⟩
  | discard {o : RuntimeObject} {saved : Option AgentCheckpoint} {clock : ℤ} {turn : Turn}
      {intent : AgentIntent} {rest : List AgentIntent} {replanned : Bool} (id : CallId)
      (hdiscards : o.discards id.tool id.argumentDigest = true) :
      Move ⟨o, .intents turn (intent :: rest) replanned, saved, clock⟩ (.discard id)
        ⟨o.discardCall turn.turnId id.tool id.argumentDigest,
          afterIntent (o.discardCall turn.turnId id.tool id.argumentDigest) turn rest replanned
            .continues, none, clock⟩
  | execute {o : RuntimeObject} {saved : Option AgentCheckpoint} {clock : ℤ} {turn : Turn}
      {intent : AgentIntent} {rest : List AgentIntent} {replanned : Bool} (call : ToolCall)
      (hcall : toolCallOf intent = some call)
      (hdiscards : o.discards call.id.tool call.id.argumentDigest = false) :
      Move ⟨o, .intents turn (intent :: rest) replanned, saved, clock⟩ (.execute call.id)
        ⟨o, .executing turn call rest replanned, none, clock⟩
  | executed {o : RuntimeObject} {saved : Option AgentCheckpoint} {clock : ℤ} {turn : Turn}
      {rest : List AgentIntent} {replanned : Bool} (call : ToolCall) (raw : JsValue) :
      Move ⟨o, .executing turn call rest replanned, saved, clock⟩ (.executed call.id raw)
        ⟨o.applyToolResult rt turn.turnId call.id.tool call.id.argumentDigest
            (normalizeToolResult raw),
          afterIntent (o.applyToolResult rt turn.turnId call.id.tool call.id.argumentDigest
            (normalizeToolResult raw)) turn rest replanned .continues, none, clock⟩
  | executorThrow {o : RuntimeObject} {saved : Option AgentCheckpoint} {clock : ℤ} {turn : Turn}
      {rest : List AgentIntent} {replanned : Bool} (call : ToolCall) :
      Move ⟨o, .executing turn call rest replanned, saved, clock⟩ (.executorThrow call.id)
        ⟨o, .idle, none, clock⟩
  | intentsDone {o : RuntimeObject} {saved : Option AgentCheckpoint} {clock : ℤ} {turn : Turn}
      {replanned : Bool} :
      Move ⟨o, .intents turn [] replanned, saved, clock⟩ .intentsDone
        ⟨RuntimeObject.movePhase o replanned, .turnEnd turn none, none, clock⟩
  | stop {o : RuntimeObject} {saved : Option AgentCheckpoint} {clock : ℤ} {turn : Turn}
      {outcome : TerminalOutcome} :
      Move ⟨o, .turnEnd turn (some outcome), saved, clock⟩ .stop
        ⟨RuntimeObject.nextTurn o, .finishing outcome, none, clock⟩
  | turnEnd {o : RuntimeObject} {saved : Option AgentCheckpoint} {clock : ℤ} {turn : Turn}
      (now : ℤ) :
      Move ⟨o, .turnEnd turn none, saved, clock⟩ (.turnEnd now)
        (stateAt now (closeTurn ((RuntimeObject.nextTurn o).refreshWallTime now) turn).1
          (closeTurn ((RuntimeObject.nextTurn o).refreshWallTime now) turn).2)
  | finish {o : RuntimeObject} {saved : Option AgentCheckpoint} {clock : ℤ}
      {outcome : TerminalOutcome} (now : ℤ) :
      Move ⟨o, .finishing outcome, saved, clock⟩ (.finish now)
        ⟨(finish rt o outcome now).1, .idle, (finish rt o outcome now).2, now⟩
  | pause {s : State} (hwaits : s.control.waits = true) :
      Move s .pause (s.goto { s.object with pausedRequested := true } s.control)
  | resume {s : State} (hwaits : s.control.waits = true) :
      Move s .resume (s.goto (RuntimeObject.unpaused s.object) s.control)
  | cancel {s : State} (hwaits : s.control.waits = true) :
      Move s .cancel (s.goto { s.object with cancelled := true } s.control)
  | checkpoint {s : State} (hwaits : s.control.waits = true) :
      Move s .checkpoint
        ⟨(s.object.checkpoint rt).1, s.control, (s.object.checkpoint rt).2, s.clock⟩
  | restore {s : State} {saved : AgentCheckpoint} {object : RuntimeObject}
      (deps : AgentRuntimeDeps) (hwaits : s.control.waits = true)
      (hsaved : s.saved = some saved)
      (hresumed : resumeFromCheckpoint rt (checkpointDocument saved) deps = some object) :
      Move s (.restore deps) (s.goto object .idle)

variable {rt argumentDigest}

theorem move_answered {o : RuntimeObject} {saved : Option AgentCheckpoint} {clock : ℤ}
    {turn : Turn} {stdoutBytes stderrBytes : Nat} {response : JsValue} {s' : State}
    (h : advance rt argumentDigest ⟨o, .calling turn, saved, clock⟩
      (.answered stdoutBytes stderrBytes response) = some s') :
    Move rt ⟨o, .calling turn, saved, clock⟩ (.answered stdoutBytes stderrBytes response) s' := by
  simp only [advance] at h
  split at h
  · obtain rfl := Option.some.inj h
    exact .answeredNothing stdoutBytes stderrBytes response
  · obtain rfl := Option.some.inj h
    rw [judge]
    split
    · rename_i accepted haccepted
      exact .accepted stdoutBytes stderrBytes response accepted
    · rename_i failure hfailure
      split
      · exact .blocked stdoutBytes stderrBytes response failure
      · exact .rejected stdoutBytes stderrBytes response failure

theorem move_of_advance {s s' : State} {e : Event}
    (h : advance rt argumentDigest s e = some s') : Move rt s e s' := by
  obtain ⟨o, control, saved, clock⟩ := s
  cases e with
  | run maxTurns now =>
      cases control <;> simp only [advance, reduceCtorEq] at h
      split at h
      · contradiction
      · rename_i hlive
        push Not at hlive
        obtain rfl := Option.some.inj h
        exact .run maxTurns now hlive.1 (by simpa using hlive.2)
  | runCancelled =>
      cases control <;> simp only [advance, reduceCtorEq] at h
      split at h
      · rename_i hlive
        obtain rfl := Option.some.inj h
        exact .runCancelled hlive.1
      · contradiction
  | halt =>
      cases control <;> simp only [advance, reduceCtorEq] at h
      split at h
      · obtain rfl := Option.some.inj h
        exact .haltCancelled
      · split at h
        · rename_i hpaused
          obtain rfl := Option.some.inj h
          exact .haltPaused hpaused
        · contradiction
  | loopHead now =>
      cases control <;> simp only [advance, reduceCtorEq] at h
      split at h
      · contradiction
      · obtain rfl := Option.some.inj h
        exact .loopHead now
  | dispatch sizes =>
      cases control <;> simp only [advance, reduceCtorEq] at h
      split at h
      · rename_i hadmits
        obtain rfl := Option.some.inj h
        exact .dispatch sizes hadmits
      · contradiction
  | refuse sizes =>
      cases control <;> simp only [advance, reduceCtorEq] at h
      split at h
      · contradiction
      · rename_i hadmits
        obtain rfl := Option.some.inj h
        exact .refuse sizes (by simpa using hadmits)
  | driverThrow =>
      cases control <;> simp only [advance, reduceCtorEq] at h
      split at h
      · rename_i hcancelled
        obtain rfl := Option.some.inj h
        exact .throwCancelled hcancelled
      · rename_i hcancelled
        obtain rfl := Option.some.inj h
        exact .driverThrow (by simpa using hcancelled)
  | failed stdoutBytes stderrBytes failure =>
      cases control <;> simp only [advance, reduceCtorEq] at h
      obtain rfl := Option.some.inj h
      exact .failed stdoutBytes stderrBytes failure
  | answered stdoutBytes stderrBytes response =>
      cases control with
      | calling turn => exact move_answered h
      | _ => simp only [advance, reduceCtorEq] at h
  | slept =>
      cases control <;> simp only [advance, reduceCtorEq] at h
      obtain rfl := Option.some.inj h
      exact .slept
  | sleepThrow =>
      cases control <;> simp only [advance, reduceCtorEq] at h
      obtain rfl := Option.some.inj h
      exact .sleepThrow
  | applyIntent =>
      cases control with
      | intents turn intents replanned =>
          cases intents with
          | nil => simp only [advance, reduceCtorEq] at h
          | cons intent rest =>
              simp only [advance] at h
              split at h
              · contradiction
              · rename_i hintent
                obtain rfl := Option.some.inj h
                exact .applyIntent intent hintent
      | _ => simp only [advance, reduceCtorEq] at h
  | discard id =>
      cases control with
      | intents turn intents replanned =>
          cases intents with
          | nil => simp only [advance, reduceCtorEq] at h
          | cons intent rest =>
              simp only [advance] at h
              split at h
              · rename_i hcall
                obtain rfl := Option.some.inj h
                exact .discard id hcall.2
              · contradiction
      | _ => simp only [advance, reduceCtorEq] at h
  | execute id =>
      cases control with
      | intents turn intents replanned =>
          cases intents with
          | nil => simp only [advance, reduceCtorEq] at h
          | cons intent rest =>
              simp only [advance] at h
              split at h
              · rename_i call hcall
                split at h
                · rename_i hid
                  obtain ⟨rfl, hdiscards⟩ := hid
                  obtain rfl := Option.some.inj h
                  exact .execute call hcall hdiscards
                · contradiction
              · contradiction
      | _ => simp only [advance, reduceCtorEq] at h
  | executed id raw =>
      cases control <;> simp only [advance, reduceCtorEq] at h
      split at h
      · rename_i hid
        subst hid
        obtain rfl := Option.some.inj h
        exact .executed _ raw
      · contradiction
  | executorThrow id =>
      cases control <;> simp only [advance, reduceCtorEq] at h
      split at h
      · rename_i hid
        subst hid
        obtain rfl := Option.some.inj h
        exact .executorThrow _
      · contradiction
  | intentsDone =>
      cases control with
      | intents turn intents replanned =>
          cases intents with
          | nil =>
              simp only [advance] at h
              obtain rfl := Option.some.inj h
              exact .intentsDone
          | cons intent rest => simp only [advance, reduceCtorEq] at h
      | _ => simp only [advance, reduceCtorEq] at h
  | stop =>
      cases control with
      | turnEnd turn terminal =>
          cases terminal with
          | none => simp only [advance, reduceCtorEq] at h
          | some outcome =>
              simp only [advance] at h
              obtain rfl := Option.some.inj h
              exact .stop
      | _ => simp only [advance, reduceCtorEq] at h
  | turnEnd now =>
      cases control with
      | turnEnd turn terminal =>
          cases terminal with
          | none =>
              simp only [advance] at h
              obtain rfl := Option.some.inj h
              exact .turnEnd now
          | some outcome => simp only [advance, reduceCtorEq] at h
      | _ => simp only [advance, reduceCtorEq] at h
  | finish now =>
      cases control <;> simp only [advance, reduceCtorEq] at h
      obtain rfl := Option.some.inj h
      exact .finish now
  | pause =>
      simp only [advance] at h
      split at h
      · rename_i hwaits
        obtain rfl := Option.some.inj h
        exact .pause hwaits
      · contradiction
  | resume =>
      simp only [advance] at h
      split at h
      · rename_i hwaits
        obtain rfl := Option.some.inj h
        exact .resume hwaits
      · contradiction
  | cancel =>
      simp only [advance] at h
      split at h
      · rename_i hwaits
        obtain rfl := Option.some.inj h
        exact .cancel hwaits
      · contradiction
  | checkpoint =>
      simp only [advance] at h
      split at h
      · rename_i hwaits
        obtain rfl := Option.some.inj h
        exact .checkpoint hwaits
      · contradiction
  | restore deps =>
      simp only [advance] at h
      split at h
      · rename_i hwaits
        obtain ⟨object, hobject, rfl⟩ := Option.map_eq_some_iff.mp h
        obtain ⟨checkpoint, hsaved, hresumed⟩ := Option.bind_eq_some_iff.mp hobject
        exact .restore deps hwaits hsaved hresumed
      · contradiction

end Moves

end NightWatch.AgentRuntime.Turns
