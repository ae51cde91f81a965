import NightWatch.AgentRuntime.Exhaustion

namespace NightWatch.AgentRuntime.WallTime

open Lib.JsText Lib.JsRuntime Lib.Machine Lib.StepFunction AgentProtocol.Vocabulary
  AgentProtocol.Validate AgentRuntime.ToolResults AgentRuntime.State AgentRuntime.Checkpoint
  AgentRuntime.Runtime AgentRuntime.Turns
open AgentRuntime.Exhaustion (sampleDeps emptyArgumentsDigest sampleStart)

def readingOf : Event → Option ℤ
  | .run _ now => some now
  | .loopHead now => some now
  | .turnEnd now => some now
  | .finish now => some now
  | _ => none

/-- The time of the runs that have ended, and the start and the last instant of the run
under way. -/
structure Stopwatch where
  closed : ℤ
  startMs : Option ℤ
  lastMs : ℤ

def Stopwatch.current (watch : Stopwatch) : ℤ :=
  match watch.startMs with
  | none => 0
  | some start => watch.lastMs - start

def Stopwatch.total (watch : Stopwatch) : ℤ := watch.closed + watch.current

/-- A call of `run` ends the segment before it. One on a cancelled object starts none, as
it returns at once. -/
def Stopwatch.note (watch : Stopwatch) : Event → Stopwatch
  | .run _ now => ⟨watch.total, some now, now⟩
  | .runCancelled => ⟨watch.total, none, watch.lastMs⟩
  | .loopHead now => { watch with lastMs := now }
  | .turnEnd now => { watch with lastMs := now }
  | .finish now => { watch with lastMs := now }
  | _ => watch

def stopwatch (history : List Event) : Stopwatch := history.foldl Stopwatch.note ⟨0, none, 0⟩

def segmentTime (history : List Event) : ℤ := (stopwatch history).total

theorem stopwatch_concat (history : List Event) (e : Event) :
    stopwatch (history ++ [e]) = (stopwatch history).note e := by
  rw [stopwatch, List.foldl_append]
  rfl

theorem total_of_stopped {watch : Stopwatch} (h : watch.startMs = none) :
    watch.total = watch.closed := by
  rw [Stopwatch.total, Stopwatch.current, h]
  exact add_zero _

theorem total_of_running {watch : Stopwatch} {start : ℤ} (h : watch.startMs = some start) :
    watch.total = watch.closed + (watch.lastMs - start) := by
  rw [Stopwatch.total, Stopwatch.current, h]

theorem note_of_unread {e : Event} (hread : readingOf e = none) (watch : Stopwatch) :
    watch.note e = watch ∨ watch.note e = ⟨watch.total, none, watch.lastMs⟩ := by
  cases e with
  | run | loopHead | turnEnd | finish => contradiction
  | runCancelled => exact .inr rfl
  | _ => exact .inl rfl

section Conditions

variable (rt : Runtime)

/-- A fresh object, or one restored from a checkpoint. -/
def IsNew (o : RuntimeObject) : Prop :=
  (∃ deps, construct deps = some o) ∨
    ∃ document deps, resumeFromCheckpoint rt document deps = some o

def isRestore : Event → Bool
  | .restore _ => true
  | _ => false

def startsRun : Event → Bool
  | .run _ _ => true
  | _ => false

/-- The clock does not go back, and the object stays the same one. -/
def InProcess (s : State) (e : Event) : Prop :=
  (∀ now ∈ readingOf e, s.clock ≤ now) ∧ isRestore e = false

/-- A run starts only while no time is charged beyond the base. -/
def Unspent (s : State) (e : Event) : Prop :=
  startsRun e = true → s.object.usage.wallTimeMs = s.object.wallBaseMs

def Fits (s : State) (e : Event) : Prop := InProcess s e ∧ Unspent s e

instance (s : State) (e : Event) : Decidable (InProcess s e) :=
  inferInstanceAs (Decidable (_ ∧ _))

instance (s : State) (e : Event) : Decidable (Fits s e) :=
  inferInstanceAs (Decidable (InProcess s e ∧ (startsRun e = true → _ = _)))

variable {rt}

theorem unread_of_isNew {o : RuntimeObject} (h : IsNew rt o) :
    o.wallBaseMs = o.usage.wallTimeMs ∧ o.runStartMs = none := by
  rcases h with ⟨deps, hdeps⟩ | ⟨document, deps, hresumed⟩
  · rw [construct] at hdeps
    split at hdeps
    · contradiction
    · obtain rfl := Option.some.inj hdeps
      exact ⟨rfl, rfl⟩
  · rw [resumeFromCheckpoint] at hresumed
    split at hresumed
    · contradiction
    · split at hresumed
      · contradiction
      · split at hresumed
        · contradiction
        · obtain ⟨state, -, hrestored⟩ := Option.bind_eq_some_iff.mp hresumed
          rw [constructRestored] at hrestored
          split_ifs at hrestored
          obtain rfl := Option.some.inj hrestored
          exact ⟨rfl, rfl⟩

end Conditions

section Clockwork

variable {rt : Runtime}

def clockwork (o : RuntimeObject) : ℤ × ℤ × Option ℤ :=
  (o.usage.wallTimeMs, o.wallBaseMs, o.runStartMs)

variable (o : RuntimeObject)

variable (rt) in
theorem clockwork_checkpoint : clockwork (o.checkpoint rt).1 = clockwork o := by
  unfold RuntimeObject.checkpoint
  split
  · rfl
  · rfl

theorem clockwork_formDrafts (drafts : List ReasonerHypothesisDraft) :
    clockwork (o.formDrafts drafts) = clockwork o := by
  obtain ⟨hypotheses, evidenceRefs, hframe⟩ := formDrafts_frame o drafts
  rw [hframe]
  rfl

theorem clockwork_applyIntent (turnId : JsString) (intent : AgentIntent) :
    clockwork (o.applyIntent turnId intent).1 = clockwork o := by
  obtain ⟨hypotheses, actionLog, evidenceRefs, candidateIds, candidateCount, hframe⟩ :=
    applyIntent_frame o turnId intent
  rw [hframe]
  rfl

variable (rt) in
theorem clockwork_applyToolResult (turnId : JsString) (tool : AgentToolId)
    (argumentDigest : JsString) (result : AgentToolResult) :
    clockwork (o.applyToolResult rt turnId tool argumentDigest result) = clockwork o := by
  have hcharge : clockwork (o.chargeTool rt result) = clockwork o := by
    unfold RuntimeObject.chargeTool
    dsimp only
    split
    · rfl
    · rfl
  obtain ⟨hypotheses, actionLog, evidenceRefs, pendingUntrusted, knownTargets,
    reproductionSurface, hframe⟩ := applyToolResult_frame rt o turnId tool argumentDigest result
  rw [hframe]
  exact hcharge

theorem clockwork_closeTurn (turn : Turn) : clockwork (closeTurn o turn).1 = clockwork o := by
  obtain ⟨actionLog, hframe⟩ := closeTurn_frame o turn
  rw [hframe]
  rfl

theorem clockwork_nextTurn (now : ℤ) : clockwork ((RuntimeObject.nextTurn o).refreshWallTime now) =
      clockwork (o.refreshWallTime now) := by
  obtain hnone | ⟨start, hsome⟩ := Option.eq_none_or_eq_some o.runStartMs
  · simp only [RuntimeObject.refreshWallTime, RuntimeObject.nextTurn, hnone, clockwork]
  · simp only [RuntimeObject.refreshWallTime, RuntimeObject.nextTurn, hsome, clockwork]

variable (rt) in
theorem clockwork_finish (outcome : TerminalOutcome) (now : ℤ) :
    clockwork (finish rt o outcome now).1 = clockwork (o.refreshWallTime now) := by
  unfold finish
  split
  · exact clockwork_checkpoint rt _
  · rfl

theorem clockwork_of_move {s s' : State} {e : Event} (h : Move rt s e s')
    (hsame : isRestore e = false) : (∃ maxTurns now, e = .run maxTurns now ∧
      clockwork s'.object = (s.object.usage.wallTimeMs, s.object.wallBaseMs, some now) ∧
      s'.clock = now) ∨
    (∃ now, readingOf e = some now ∧
      (∀ watch : Stopwatch, watch.note e = { watch with lastMs := now }) ∧
      clockwork s'.object = clockwork (s.object.refreshWallTime now) ∧ s'.clock = now) ∨
    readingOf e = none ∧ clockwork s'.object = clockwork s.object ∧ s'.clock = s.clock := by
  cases h with
  | run maxTurns now => exact .inl ⟨maxTurns, now, rfl, rfl, rfl⟩
  | loopHead now => exact .inr (.inl ⟨now, rfl, fun _ => rfl, rfl, rfl⟩)
  | turnEnd now =>
      refine .inr (.inl ⟨now, rfl, fun _ => rfl, ?_, rfl⟩)
      exact (clockwork_closeTurn _ _).trans (clockwork_nextTurn _ now)
  | finish now => exact .inr (.inl ⟨now, rfl, fun _ => rfl, clockwork_finish rt _ _ now, rfl⟩)
  | runCancelled | haltCancelled | haltPaused | dispatch | refuse | throwCancelled | driverThrow
  | execute | answeredNothing | slept | sleepThrow | executorThrow | intentsDone | stop | pause
  | cancel | failed | blocked | rejected | discard => exact .inr (.inr ⟨rfl, rfl, rfl⟩)
  | accepted stdoutBytes stderrBytes response accepted =>
      refine .inr (.inr ⟨rfl, ?_, rfl⟩)
      exact clockwork_formDrafts _ accepted.hypotheses
  | applyIntent intent hintent =>
      exact .inr (.inr ⟨rfl, clockwork_applyIntent _ _ intent, rfl⟩)
  | executed call raw =>
      exact .inr (.inr ⟨rfl, clockwork_applyToolResult rt _ _ _ _ _, rfl⟩)
  | resume hwaits =>
      refine .inr (.inr ⟨rfl, ?_, rfl⟩)
      obtain ⟨status, terminationReason, hframe⟩ := unpaused_frame s.object
      change clockwork (RuntimeObject.unpaused s.object) = clockwork s.object
      rw [hframe]
      rfl
  | checkpoint hwaits => exact .inr (.inr ⟨rfl, clockwork_checkpoint rt s.object, rfl⟩)
  | restore deps => contradiction

end Clockwork

section Runs

variable {rt : Runtime} {argumentDigest : Fields → JsString} {base : ℤ}

/-- The charged time covers the base and the segments, and no reading can take it back. -/
structure Covered (base : ℤ) (watch : Stopwatch) (s : State) : Prop where
  base_eq : s.object.wallBaseMs = base
  covers : base + watch.total ≤ s.object.usage.wallTimeMs
  bounded : ∀ start, s.object.runStartMs = some start →
    s.object.usage.wallTimeMs ≤ base + (s.clock - start)
  opened : ∀ start, watch.startMs = some start → s.object.runStartMs = some start ∧ watch.closed ≤ 0

theorem covered_start {o : RuntimeObject} (h : IsNew rt o) (clock : ℤ) :
    Covered o.usage.wallTimeMs (stopwatch []) ⟨o, .idle, none, clock⟩ := by
  obtain ⟨hbase, hstart⟩ := unread_of_isNew h
  constructor
  · exact hbase
  · exact (add_zero _).le
  · intro start hsome
    rw [hstart] at hsome
    contradiction
  · intro start hsome
    contradiction

variable {watch : Stopwatch} {s s' : State} {now : ℤ}

section

variable (h : Covered base watch s)

include h

theorem Covered.started (hunspent : s.object.usage.wallTimeMs = s.object.wallBaseMs)
    (hwork : clockwork s'.object = (s.object.usage.wallTimeMs, s.object.wallBaseMs, some now))
    (hclock : s'.clock = now) : Covered base ⟨watch.total, some now, now⟩ s' := by
  obtain ⟨hwall, hbase, hstart⟩ : s'.object.usage.wallTimeMs = s.object.usage.wallTimeMs ∧
      s'.object.wallBaseMs = s.object.wallBaseMs ∧ s'.object.runStartMs = some now := by
    simpa [clockwork] using hwork
  have hcovers := h.covers
  rw [hunspent, h.base_eq] at hcovers
  have hsame : s.object.usage.wallTimeMs = base := hunspent.trans h.base_eq
  constructor
  · exact hbase.trans h.base_eq
  · rw [total_of_running rfl, hwall, hsame]
    change base + (watch.total + (now - now)) ≤ base
    omega
  · intro start hsome
    obtain rfl := Option.some.inj (hstart.symm.trans hsome)
    omega
  · intro start hsome
    obtain rfl : now = start := Option.some.inj hsome
    have hnothing : watch.total ≤ 0 := by omega
    exact ⟨hstart, hnothing⟩

theorem Covered.read_idle
    (hidle : s.object.runStartMs = none) (hwork : clockwork s'.object = clockwork s.object) :
    Covered base { watch with lastMs := now } s' := by
  obtain ⟨hwall, hbase, hstart⟩ : s'.object.usage.wallTimeMs = s.object.usage.wallTimeMs ∧
      s'.object.wallBaseMs = s.object.wallBaseMs ∧ s'.object.runStartMs = s.object.runStartMs := by
    simpa [clockwork] using hwork
  have hstopped : watch.startMs = none := by
    by_contra hrunning
    obtain ⟨start, hsome⟩ := Option.ne_none_iff_exists'.mp hrunning
    rw [(h.opened start hsome).1] at hidle
    contradiction
  have hcovers := h.covers
  rw [total_of_stopped hstopped] at hcovers
  constructor
  · exact hbase.trans h.base_eq
  · have htotal : Stopwatch.total { watch with lastMs := now } = watch.closed :=
      total_of_stopped hstopped
    rw [htotal, hwall]
    exact hcovers
  · intro start hsome
    rw [hstart, hidle] at hsome
    contradiction
  · intro start hsome
    exact absurd (hstopped.symm.trans hsome) (by simp)

theorem Covered.read_running {start : ℤ} (hrunning : s.object.runStartMs = some start) (hnow : s.clock ≤ now)
    (hwork : clockwork s'.object = (base + (now - start), base, some start))
    (hclock : s'.clock = now) : Covered base { watch with lastMs := now } s' := by
  obtain ⟨hwall, hbase, hstart⟩ : s'.object.usage.wallTimeMs = base + (now - start) ∧
      s'.object.wallBaseMs = base ∧ s'.object.runStartMs = some start := by
    simpa [clockwork] using hwork
  have hbefore := h.bounded start hrunning
  have hcovers := h.covers
  refine ⟨hbase, ?_, ?_, ?_⟩
  · rcases Option.eq_none_or_eq_some watch.startMs with hstopped | ⟨begun, hbegun⟩
    · have htotal : Stopwatch.total { watch with lastMs := now } = watch.closed :=
        total_of_stopped hstopped
      rw [total_of_stopped hstopped] at hcovers
      omega
    · obtain ⟨hsome, hclosed⟩ := h.opened begun hbegun
      obtain rfl := Option.some.inj (hrunning.symm.trans hsome)
      have htotal : Stopwatch.total { watch with lastMs := now } =
          watch.closed + (now - start) := total_of_running hbegun
      omega
  · intro start' hsome
    obtain rfl := Option.some.inj (hstart.symm.trans hsome)
    omega
  · intro begun hbegun
    obtain ⟨hsome, hclosed⟩ := h.opened begun hbegun
    exact ⟨hstart.trans (hrunning.symm.trans hsome), hclosed⟩

theorem Covered.unread {e : Event}
    (hread : readingOf e = none) (hwork : clockwork s'.object = clockwork s.object)
    (hclock : s'.clock = s.clock) : Covered base (watch.note e) s' := by
  obtain ⟨hwall, hbase, hstart⟩ : s'.object.usage.wallTimeMs = s.object.usage.wallTimeMs ∧
      s'.object.wallBaseMs = s.object.wallBaseMs ∧ s'.object.runStartMs = s.object.runStartMs := by
    simpa [clockwork] using hwork
  have hcovers := h.covers
  have hbounded : ∀ start, s'.object.runStartMs = some start →
      s'.object.usage.wallTimeMs ≤ base + (s'.clock - start) := by
    intro start hsome
    rw [hwall, hclock]
    exact h.bounded start (hstart.symm.trans hsome)
  rcases note_of_unread hread watch with hnote | hnote
  · rw [hnote]
    refine ⟨hbase.trans h.base_eq, by rwa [hwall], hbounded, ?_⟩
    intro start hsome
    obtain ⟨hbegun, hclosed⟩ := h.opened start hsome
    exact ⟨hstart.trans hbegun, hclosed⟩
  · rw [hnote]
    refine ⟨hbase.trans h.base_eq, ?_, hbounded, ?_⟩
    · rw [total_of_stopped rfl, hwall]
      exact hcovers
    · intro start hsome
      contradiction

theorem Covered.step {e : Event} (hmove : Move rt s e s') (hfits : Fits s e) :
    Covered base (watch.note e) s' ∧ s.object.usage.wallTimeMs ≤ s'.object.usage.wallTimeMs := by
  obtain ⟨⟨hforward, hsame⟩, hunspent⟩ := hfits
  rcases clockwork_of_move hmove hsame with
    ⟨maxTurns, now, rfl, hwork, hclock⟩ | ⟨now, hread, hnote, hwork, hclock⟩ |
      ⟨hread, hwork, hclock⟩
  · exact ⟨h.started (hunspent rfl) hwork hclock, (congrArg Prod.fst hwork).ge⟩
  · have hnow : s.clock ≤ now := hforward now hread
    rw [hnote]
    rw [RuntimeObject.refreshWallTime] at hwork
    split at hwork
    · rename_i hidle
      exact ⟨h.read_idle hidle hwork, (congrArg Prod.fst hwork).ge⟩
    · rename_i start hrunning
      have hwork' : clockwork s'.object = (base + (now - start), base, some start) := by
        rw [hwork, ← h.base_eq, ← hrunning]
        rfl
      have hbefore := h.bounded start hrunning
      have hwall : s'.object.usage.wallTimeMs = base + (now - start) := congrArg Prod.fst hwork'
      exact ⟨h.read_running hrunning hnow hwork' hclock, by omega⟩
  · exact ⟨h.unread hread hwork hclock, (congrArg Prod.fst hwork).ge⟩

end

theorem covered_of_run {start : RuntimeObject} {clock : ℤ} {history : List Event}
    (hnew : IsNew rt start)
    (hrun : Run ((runtimeSystem rt argumentDigest start clock).guarded Fits) history s) :
    Covered start.usage.wallTimeMs (stopwatch history) s := by
  refine hrun.invariant (P := fun history s =>
    Covered start.usage.wallTimeMs (stopwatch history) s) (covered_start hnew clock) ?_
  rintro past before e after hpast ⟨hadvance, hfits⟩
  rw [stopwatch_concat]
  exact (hpast.step (move_of_advance hadvance) hfits).1

/-- While every run starts on an object that has charged nothing beyond its base, the wall
time covers the base and the run segments, and no step takes any of it back. -/
theorem wall_time_is_kept {start : RuntimeObject} {clock : ℤ} {history : List Event} {s : State}
    (hnew : IsNew rt start)
    (hrun : Run ((runtimeSystem rt argumentDigest start clock).guarded Fits) history s) :
    start.usage.wallTimeMs + segmentTime history ≤ s.object.usage.wallTimeMs ∧
    ∀ e s', advance rt argumentDigest s e = some s' → Fits s e →
      s.object.usage.wallTimeMs ≤ s'.object.usage.wallTimeMs := by
  have hcovered := covered_of_run hnew hrun
  refine ⟨hcovered.covers, ?_⟩
  intro e s' hadvance hfits
  exact (hcovered.step (move_of_advance hadvance) hfits).2

end Runs

def firstRun : List Event := [.pause, .resume, .run none 20, .loopHead 50]

theorem wall_time_is_kept_firstRun : ∃ s : State, segmentTime firstRun = 30 ∧
    0 + segmentTime firstRun ≤ s.object.usage.wallTimeMs ∧
    ∀ e s', advance plainRuntime emptyArgumentsDigest s e = some s' → Fits s e →
      s.object.usage.wallTimeMs ≤ s'.object.usage.wallTimeMs := by
  have hevaluated : (evaluate (restrict (advance plainRuntime emptyArgumentsDigest) Fits)
      sampleStart firstRun).isSome = true := by
    decide +kernel
  obtain ⟨s, hs⟩ := Option.isSome_iff_exists.mp hevaluated
  have hnew : IsNew plainRuntime (.create sampleDeps) := .inl ⟨sampleDeps, rfl⟩
  exact ⟨s, rfl, wall_time_is_kept hnew (guarded_run_of_evaluate hs)⟩

def pausedRun : List Event :=
  [.run none 0, .loopHead 0, .dispatch ⟨0, 0, 0⟩, .pause, .failed 0 0 .timeout, .slept,
    .turnEnd 100, .halt, .finish 100]

def resumedRun : List Event :=
  [.resume, .run none 200, .loopHead 200, .dispatch ⟨0, 0, 0⟩, .cancel, .failed 0 0 .timeout,
    .slept, .turnEnd 210, .halt, .finish 210]

/-- The second run takes back what the first has charged. -/
theorem resumed_run_refunds : ∃ before after : State,
    Run ((runtimeSystem plainRuntime emptyArgumentsDigest (.create sampleDeps) 0).guarded
      InProcess) pausedRun before ∧
    Run ((runtimeSystem plainRuntime emptyArgumentsDigest (.create sampleDeps) 0).guarded
      InProcess) (pausedRun ++ resumedRun) after ∧ IsNew plainRuntime (.create sampleDeps) ∧
    after.object.usage.wallTimeMs < before.object.usage.wallTimeMs ∧
    after.object.usage.wallTimeMs < (RuntimeObject.create sampleDeps).usage.wallTimeMs +
      segmentTime (pausedRun ++ resumedRun) := by
  have hevaluated : ((evaluate (restrict (advance plainRuntime emptyArgumentsDigest) InProcess)
      sampleStart pausedRun).bind fun before =>
        (evaluate (restrict (advance plainRuntime emptyArgumentsDigest) InProcess) before
          resumedRun).map fun after =>
            (before.object.usage.wallTimeMs, after.object.usage.wallTimeMs)) = some (100, 10) := by
    decide +kernel
  obtain ⟨before, hbefore, hrest⟩ := Option.bind_eq_some_iff.mp hevaluated
  obtain ⟨after, hafter, hwalls⟩ := Option.map_eq_some_iff.mp hrest
  obtain ⟨hcharged, hrefunded⟩ := Prod.mk.inj hwalls
  have hfirst := guarded_run_of_evaluate hbefore
  have htotal : segmentTime (pausedRun ++ resumedRun) = 110 := rfl
  refine ⟨before, after, hfirst, guarded_run_append hfirst hafter, .inl ⟨sampleDeps, rfl⟩, ?_, ?_⟩
  · omega
  · change _ < 0 + segmentTime (pausedRun ++ resumedRun)
    omega

end NightWatch.AgentRuntime.WallTime
