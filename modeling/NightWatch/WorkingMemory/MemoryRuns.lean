import NightWatch.AgentRuntime.Exhaustion
import NightWatch.WorkingMemory.Attempts

/-!
Working memory beside the run that it tells of: the attempts in the log are the reproductions
that the executor was asked for, as long as no repeat of one is discarded.
-/

namespace NightWatch.WorkingMemory.MemoryRuns

open Lib.JsText Lib.JsData Lib.JsRuntime Lib.Machine Lib.Grouping Lib.StepFunction
  AgentProtocol.Vocabulary AgentProtocol.Actions AgentRuntime.ToolResults AgentRuntime.State
  AgentRuntime.Runtime AgentRuntime.Turns AgentRuntime.LogRuns
open AgentRuntime.Exhaustion (call_of_fingerprint sampleDeps emptyArgumentsDigest
  repeatedHistory retriedHistory sampleStart)
open WorkingMemory.Ledger WorkingMemory.Derive WorkingMemory.Attempts

def attemptOfResult (id : CallId) (result : AgentToolResult) : Option Attempt :=
  if id.tool = .rerunSafeReproduction then
    result.memory.target.map fun target =>
      ⟨target, id.argumentDigest, recordedClass result,
        if result.ok then none else result.disposition⟩
  else none

def attemptOfEvent : Event → Option Attempt
  | .executed id raw => attemptOfResult id (normalizeToolResult raw)
  | _ => none

def attemptsOf (history : List Event) : List Attempt := history.filterMap attemptOfEvent

theorem attemptsOf_concat (history : List Event) (e : Event) :
    attemptsOf (history ++ [e]) = attemptsOf history ++ (attemptOfEvent e).toList := by
  rw [attemptsOf, attemptsOf, List.filterMap_append]
  cases h : attemptOfEvent e with
  | none => simp [h]
  | some a => simp [h]

theorem boundedString_of_boundedMemoryString {value : JsValue} {max : Nat} {s : JsString}
    (h : boundedMemoryString value max = some s) : boundedString (some s) max = some s := by
  obtain ⟨-, hs⟩ := Option.filter_eq_some_iff.mp h
  simp only [Bool.and_eq_true, decide_eq_true_eq, Bool.not_eq_true', List.isEmpty_eq_false_iff]
    at hs
  obtain ⟨⟨hempty, hlength⟩, hsecret⟩ := hs
  have htrimmed : trimmed max s = s := if_neg (Nat.not_lt.mpr hlength)
  rw [boundedString, Option.bind_some, if_neg hempty, htrimmed, hsecret]
  rfl

theorem boundedString_target (raw : JsValue) :
    boundedString (normalizeToolResult raw).memory.target targetChars =
      (normalizeToolResult raw).memory.target := by
  have hfacts : ∀ value, boundedString (normalizeToolMemoryFacts value).target targetChars =
      (normalizeToolMemoryFacts value).target := by
    intro value
    cases htarget : (normalizeToolMemoryFacts value).target with
    | none => rfl
    | some target =>
        cases value with
        | obj fields => exact boundedString_of_boundedMemoryString htarget
        | _ => cases htarget
  cases raw with
  | obj fields => exact hfacts _
  | _ => rfl

theorem text_eq_rerun_iff (tool : AgentToolId) :
    some tool.text = rerunTool ↔ tool = .rerunSafeReproduction := by
  cases tool <;> decide

theorem attemptOf_toolEntry (o : RuntimeObject) (turnId : JsString) (id : CallId) (raw : JsValue) :
    attemptOf (o.toolEntry turnId id.tool id.argumentDigest (normalizeToolResult raw)) =
      attemptOfResult id (normalizeToolResult raw) := by
  have htool : (o.toolEntry turnId id.tool id.argumentDigest (normalizeToolResult raw)).toolId =
      rerunTool ↔ id.tool = .rerunSafeReproduction := text_eq_rerun_iff id.tool
  rw [attemptOf, attemptOfResult]
  by_cases hrerun : id.tool = .rerunSafeReproduction
  · rw [if_pos (htool.mpr hrerun), if_pos hrerun]
    change (boundedString (normalizeToolResult raw).memory.target targetChars).map _ = _
    rw [boundedString_target]
    rfl
  · rw [if_neg (mt htool.mp hrerun), if_neg hrerun]

def sameCall (id : CallId) (record : AgentActionRecord) : Bool :=
  record.toolId == some id.tool.text && record.argumentDigest == some id.argumentDigest

def confirmedTarget (log : List AgentActionRecord) (id : CallId) : Option JsString :=
  (log.reverse.find? (sameCall id)).bind AgentActionRecord.target

/-- What the log must allow of `RERUN_SAFE_REPRODUCTION`: no discarded repeat has a confirmed
target, and a retryable failure with one stands beside no answer to the same call without one. -/
def Fits (log : List AgentActionRecord) : Event → Prop
  | .discard id => id.tool = .rerunSafeReproduction → confirmedTarget log id = none
  | .executed id raw => id.tool = .rerunSafeReproduction →
      ∀ record ∈ log, sameCall id record = true →
        ((attemptOf record).any Attempt.failedTransiently = true →
          (attemptOfResult id (normalizeToolResult raw)).isSome = true) ∧
        ((attemptOfResult id (normalizeToolResult raw)).any Attempt.failedTransiently = true →
          (attemptOf record).isSome = true)
  | _ => True

instance (log : List AgentActionRecord) : (e : Event) → Decidable (Fits log e)
  | .discard _ => inferInstanceAs (Decidable (_ → _))
  | .executed _ _ => inferInstanceAs (Decidable (_ → _))
  | .run _ _ | .runCancelled | .halt | .loopHead _ | .dispatch _ | .refuse _ | .driverThrow
  | .failed _ _ _ | .answered _ _ _ | .slept | .sleepThrow | .applyIntent | .execute _
  | .executorThrow _ | .intentsDone | .stop | .turnEnd _ | .finish _ | .pause | .resume
  | .cancel | .checkpoint | .restore _ => .isTrue trivial

/-- A record of a tool call that was executed or discarded. -/
structure OfCall (record : AgentActionRecord) (id : CallId) : Prop where
  key : record.key = callKey id.tool id.argumentDigest
  failed : record.disposition ≠ none → record.resultClass = toolError

/-- What a log says of the run that wrote it. -/
structure Tells (history : List Event) (log : List AgentActionRecord) : Prop where
  ran : attempts log = attemptsOf history
  records : ∀ record ∈ log, Plain record ∨ ∃ id, OfCall record id
  targeted : ∀ record ∈ log, (attemptOf record).any Attempt.failedTransiently = true →
    ∀ other ∈ log, other.toolId = record.toolId →
      other.argumentDigest = record.argumentDigest → (attemptOf other).isSome = true

theorem ne_none_of_any {α : Type} {value : Option α} {p : α → Bool} (h : value.any p = true) :
    value ≠ none := by
  rintro rfl
  contradiction

variable {record : AgentActionRecord} {e : Event} {id : CallId}

theorem toolId_of_attemptOf (h : attemptOf record ≠ none) : record.toolId = rerunTool := by
  by_contra hother
  exact h (if_neg hother)

theorem attemptOf_of_plain (h : Plain record) : attemptOf record = none := by
  by_contra hattempt
  have htool := toolId_of_attemptOf hattempt
  rw [h.toolId] at htool
  cases htool

variable {log : List AgentActionRecord} {history : List Event}

theorem Tells.idle (h : Tells history log) (hevent : attemptOfEvent e = none)
    (hattempt : attemptOf record = none) (hrecord : Plain record ∨ ∃ id, OfCall record id)
    (hfree : ∀ other ∈ log, (attemptOf other).any Attempt.failedTransiently = true →
      record.toolId = other.toolId → record.argumentDigest ≠ other.argumentDigest) :
    Tells (history ++ [e]) (log ++ [record]) := by
  refine ⟨?_, ?_, ?_⟩
  · rw [attempts_concat, attemptsOf_concat, hevent, hattempt, h.ran]
  · intro r hr
    rcases List.mem_append.mp hr with hold | hnew
    · exact h.records r hold
    · obtain rfl := List.mem_singleton.mp hnew
      exact hrecord
  · intro r hr hfailed other hother htool hdigest
    rcases List.mem_append.mp hr with hold | hnew
    · rcases List.mem_append.mp hother with hold' | hnew'
      · exact h.targeted r hold hfailed other hold' htool hdigest
      · obtain rfl := List.mem_singleton.mp hnew'
        exact absurd hdigest (hfree r hold hfailed htool)
    · obtain rfl := List.mem_singleton.mp hnew
      rw [hattempt] at hfailed
      contradiction

theorem Tells.same
    (h : Tells history log) (hcall : isCall e = false) : Tells (history ++ [e]) log := by
  have hevent : attemptOfEvent e = none := by
    cases e with
    | executed id raw => cases hcall
    | _ => rfl
  refine ⟨?_, h.records, h.targeted⟩
  rw [attemptsOf_concat, hevent, h.ran]
  simp

theorem exists_last_sameCall (hmem : record ∈ log) (hsame : sameCall id record = true) :
    ∃ last ∈ log, sameCall id last = true ∧ confirmedTarget log id = last.target := by
  cases hfind : log.reverse.find? (sameCall id) with
  | none =>
      have hnone := List.find?_eq_none.mp hfind record (List.mem_reverse.mpr hmem)
      contradiction
  | some last =>
      refine ⟨last, List.mem_reverse.mp (List.mem_of_find?_eq_some hfind),
        List.find?_some hfind, ?_⟩
      rw [confirmedTarget, hfind]
      rfl

theorem target_of_attemptOf (h : (attemptOf record).isSome = true) : record.target ≠ none := by
  intro hnone
  rw [attemptOf, hnone] at h
  split at h
  · cases h
  · cases h

theorem sameCall_iff : sameCall id record = true ↔
      record.toolId = some id.tool.text ∧ record.argumentDigest = some id.argumentDigest := by
  simp [sameCall]

variable {o : RuntimeObject} {turnId : JsString}

theorem Tells.discarded (h : Tells history o.actionLog)
    (hfits : Fits o.actionLog (.discard id)) : Tells (history ++ [.discard id])
      (o.actionLog ++ [o.discardEntry turnId id.tool id.argumentDigest]) := by
  have htarget : (o.discardEntry turnId id.tool id.argumentDigest).target =
      confirmedTarget o.actionLog id := rfl
  refine h.idle rfl ?_ (.inr ⟨id, rfl, fun hdisposition => absurd rfl hdisposition⟩) ?_
  · rw [attemptOf]
    split
    case isTrue htool =>
      rw [htarget, hfits ((text_eq_rerun_iff id.tool).mp htool)]
      rfl
    case isFalse => rfl
  · intro other hother hfailed htool hdigest
    have hrerun : id.tool = .rerunSafeReproduction :=
      (text_eq_rerun_iff id.tool).mp (htool.trans (toolId_of_attemptOf (ne_none_of_any hfailed)))
    obtain ⟨last, hlast, hsame, hconfirmed⟩ :=
      exists_last_sameCall hother (sameCall_iff.mpr ⟨htool.symm, hdigest.symm⟩)
    obtain ⟨hlasttool, hlastdigest⟩ := sameCall_iff.mp hsame
    have hsome := h.targeted other hother hfailed last hlast (hlasttool.trans htool)
      (hlastdigest.trans hdigest)
    exact target_of_attemptOf hsome (hconfirmed.symm.trans (hfits hrerun))

theorem Tells.executed {raw : JsValue} (h : Tells history o.actionLog)
    (hfits : Fits o.actionLog (.executed id raw)) :
    Tells (history ++ [.executed id raw]) (o.actionLog ++
      [o.toolEntry turnId id.tool id.argumentDigest (normalizeToolResult raw)]) := by
  have hnew := attemptOf_toolEntry o turnId id raw
  have htools : ∀ other : AgentActionRecord, other.toolId = some id.tool.text →
      attemptOf other ≠ none ∨ attemptOfResult id (normalizeToolResult raw) ≠ none →
      id.tool = .rerunSafeReproduction := by
    intro other htool hattempt
    rcases hattempt with hattempt | hattempt
    · exact (text_eq_rerun_iff id.tool).mp (htool.symm.trans (toolId_of_attemptOf hattempt))
    · rw [← hnew] at hattempt
      exact (text_eq_rerun_iff id.tool).mp (toolId_of_attemptOf hattempt)
  refine ⟨?_, ?_, ?_⟩
  · rw [attempts_concat, attemptsOf_concat, h.ran, hnew]
    rfl
  · intro r hr
    rcases List.mem_append.mp hr with hold | hlast
    · exact h.records r hold
    · obtain rfl := List.mem_singleton.mp hlast
      refine .inr ⟨id, rfl, ?_⟩
      intro hdisposition
      change (if (normalizeToolResult raw).ok then none
        else (normalizeToolResult raw).disposition) ≠ none at hdisposition
      have hok : (normalizeToolResult raw).ok = false := by
        by_contra hok
        exact hdisposition (if_pos (Bool.not_eq_false _ ▸ hok))
      change recordedClass (normalizeToolResult raw) = toolError
      rw [recordedClass, hok]
      rfl
  · intro r hr hfailed other hother htool hdigest
    rcases List.mem_append.mp hr with hold | hlast
    · rcases List.mem_append.mp hother with hold' | hlast'
      · exact h.targeted r hold hfailed other hold' htool hdigest
      · obtain rfl := List.mem_singleton.mp hlast'
        have hrerun := htools r htool.symm (.inl (ne_none_of_any hfailed))
        rw [hnew]
        exact (hfits hrerun r hold (sameCall_iff.mpr ⟨htool.symm, hdigest.symm⟩)).1 hfailed
    · obtain rfl := List.mem_singleton.mp hlast
      rcases List.mem_append.mp hother with hold' | hlast'
      · rw [hnew] at hfailed
        have hrerun := htools other htool (.inr (ne_none_of_any hfailed))
        exact (hfits hrerun other hold' (sameCall_iff.mpr ⟨htool, hdigest⟩)).2 hfailed
      · obtain rfl := List.mem_singleton.mp hlast'
        exact Option.isSome_iff_ne_none.mpr (ne_none_of_any hfailed)

theorem Tells.step {log' : List AgentActionRecord}
    (h : Tells history log) (hfits : Fits log e) (hmove : LogMove log e log') :
    Tells (history ++ [e]) log' := by
  cases hmove with
  | same hcall => exact h.same hcall
  | @noted _ _ record hcall hplain =>
      have hattempt := attemptOf_of_plain hplain
      refine h.idle ?_ hattempt (.inl hplain) ?_
      · cases e with
        | executed id raw => cases hcall
        | _ => rfl
      · intro other _ hfailed htool _
        have hrerun := toolId_of_attemptOf (ne_none_of_any hfailed)
        rw [← htool, hplain.toolId] at hrerun
        cases hrerun
  | discarded o turnId id => exact h.discarded hfits
  | executed o turnId id raw => exact h.executed hfits

section Exhaustion

variable {history : List Event} {log : List AgentActionRecord}

theorem exhaustedFrom_eq_false {fingerprint : JsString} {found : Nat}
    (hclass : ∀ record ∈ log, actionFingerprint record.key = fingerprint →
      record.resultClass ≠ dedupedRepeat ∧
        (record.resultClass = toolError → record.disposition = some .transientRetryable))
    (hcount : found + (log.countP fun record =>
      actionFingerprint record.key = fingerprint ∧ record.resultClass = toolError) <
        transientActionRetryBudget) : exhaustedFrom fingerprint found log = false := by
  induction log generalizing found with
  | nil => rfl
  | cons record rest ih =>
      have hrest := fun r hr => hclass r (List.mem_cons_of_mem record hr)
      rw [List.countP_cons] at hcount
      rw [exhaustedFrom]
      split
      case isTrue hsame =>
        obtain ⟨hrepeat, herror⟩ := hclass record (by simp) hsame
        rw [if_neg hrepeat]
        split
        case isTrue hfailed =>
          rw [herror hfailed, Option.getD_some]
          simp only [hsame, hfailed, and_self, decide_true, if_true] at hcount
          rw [if_neg (by omega)]
          exact ih hrest (by omega)
        case isFalse => exact ih hrest (by omega)
      case isFalse => exact ih hrest (by omega)

variable {a : Attempt}

theorem attempt_of_mem (ha : a ∈ attempts log) :
    ∃ record ∈ log, attemptOf record = some a := List.mem_filterMap.mp ha

variable {record : AgentActionRecord}

theorem attemptOf_eq_some (h : attemptOf record = some a) : record.toolId = rerunTool ∧
      record.resultClass = a.resultClass ∧ record.disposition = a.disposition ∧
        record.argumentDigest.getD [] = a.argumentDigest := by
  have htool := toolId_of_attemptOf (h ▸ Option.some_ne_none a)
  rw [attemptOf, if_pos htool] at h
  obtain ⟨target, -, rfl⟩ := Option.map_eq_some_iff.mp h
  exact ⟨htool, rfl, rfl, rfl⟩

variable {a : Attempt}

theorem Tells.ofCall (h : Tells history log) (hmem : record ∈ log)
    (hattempt : attemptOf record = some a) :
    OfCall record ⟨.rerunSafeReproduction, a.argumentDigest⟩ := by
  obtain ⟨htool, -, -, hdigest⟩ := attemptOf_eq_some hattempt
  rcases h.records record hmem with hplain | ⟨⟨tool, argumentDigest⟩, hcall⟩
  · rw [hplain.toolId] at htool
    cases htool
  · have hsame : record.toolId = some tool.text := congrArg ActionKey.toolId hcall.key
    have hdigest' : record.argumentDigest = some argumentDigest :=
      congrArg ActionKey.argumentDigest hcall.key
    rw [hdigest', Option.getD_some] at hdigest
    subst hdigest
    obtain rfl := (text_eq_rerun_iff tool).mp (hsame.symm.trans htool)
    exact hcall

theorem Tells.attempt_of_fingerprint (h : Tells history log) (hmem : record ∈ log)
    (hattempt : attemptOf record = some a)
    (hfailed : a.failedTransiently = true) {other : AgentActionRecord} (hother : other ∈ log)
    (hsame : actionFingerprint other.key =
      actionFingerprint (callKey .rerunSafeReproduction a.argumentDigest)) :
    Plain other ∨ ∃ b ∈ attempts log, attemptOf other = some b := by
  rcases h.records other hother with hplain | ⟨⟨tool, argumentDigest⟩, hcall⟩
  · exact .inl hplain
  · rw [hcall.key] at hsame
    obtain ⟨rfl, rfl⟩ := call_of_fingerprint hsame
    have hrecord := h.ofCall hmem hattempt
    have hsome := h.targeted record hmem (by rw [hattempt]; exact hfailed) other hother
      (congrArg ActionKey.toolId (hcall.key.trans hrecord.key.symm))
      (congrArg ActionKey.argumentDigest (hcall.key.trans hrecord.key.symm))
    obtain ⟨b, hb⟩ := Option.isSome_iff_exists.mp hsome
    exact .inr ⟨b, List.mem_filterMap.mpr ⟨other, hother, hb⟩, hb⟩

theorem failed_of_class
    (h : a.resultClass = toolError ∨ a.resultClass = dedupedRepeat) : a.failed = true := by
  rw [Attempt.failed]
  rcases h with h | h
  · rw [h]
    decide
  · rw [h]
    decide

theorem disposition_of_failedTransiently (h : a.failedTransiently = true) :
    a.disposition = some .transientRetryable :=
  of_decide_eq_true (Bool.and_eq_true_iff.mp h).2

theorem Tells.not_exhausted (h : Tells history log) (hremains : RetryRemains (attempts log))
    (ha : a ∈ attempts log) (hfailed : a.failedTransiently = true) :
    detectExhaustedAction log (callKey .rerunSafeReproduction a.argumentDigest) = false := by
  obtain ⟨record, hmem, hattempt⟩ := attempt_of_mem ha
  have hothers : ∀ other ∈ log, actionFingerprint other.key =
      actionFingerprint (callKey .rerunSafeReproduction a.argumentDigest) →
        Plain other ∨ ∃ b ∈ attempts log, attemptOf other = some b :=
    fun _ hother hsame => h.attempt_of_fingerprint hmem hattempt hfailed hother hsame
  have hnoerror : ∀ other ∈ log, ∀ b ∈ attempts log, attemptOf other = some b →
      other.resultClass = toolError ∨ other.resultClass = dedupedRepeat →
      other.disposition = some .transientRetryable ∧ b.failedTransiently = true := by
    intro other hother b hb hb' hclass
    obtain ⟨-, hsameclass, hdisposition, -⟩ := attemptOf_eq_some hb'
    have hfailure := hremains.transient b hb (failed_of_class (hsameclass ▸ hclass))
    exact ⟨hdisposition.trans (disposition_of_failedTransiently hfailure), hfailure⟩
  refine exhaustedFrom_eq_false ?_ ?_
  · intro other hother hsame
    rcases hothers other hother hsame with hplain | ⟨b, hb, hb'⟩
    · exact ⟨hplain.notRepeat, fun herror => absurd herror hplain.notError⟩
    · refine ⟨?_, fun herror => (hnoerror other hother b hb hb' (.inl herror)).1⟩
      intro hrepeat
      have hdisposition := (hnoerror other hother b hb hb' (.inr hrepeat)).1
      have herror := (h.ofCall hother hb').failed (hdisposition ▸ Option.some_ne_none _)
      exact toolError_ne_dedupedRepeat (herror.symm.trans hrepeat)
  · rw [Nat.zero_add]
    refine Nat.lt_of_le_of_lt ?_ (hremains.within a.argumentDigest)
    rw [transientFailures, attempts, List.countP_filterMap]
    refine List.countP_mono_left fun other hother hcounted => ?_
    obtain ⟨hsame, herror⟩ := of_decide_eq_true hcounted
    rcases hothers other hother hsame with hplain | ⟨b, hb, hb'⟩
    · exact absurd herror hplain.notError
    · have hfailure := (hnoerror other hother b hb hb' (.inl herror)).2
      have hkey := (h.ofCall hother hb').key
      rw [hkey] at hsame
      have hdigest : b.argumentDigest = a.argumentDigest := (call_of_fingerprint hsame).2
      simp [hb', hfailure, hdigest]

end Exhaustion

section Memory

variable {history : List Event} {state : AgentRuntimeState}
  {campaign : Option CampaignStrategyState}

def firstReady (state : AgentRuntimeState) : Option MemoryHypothesis :=
  (state.hypotheses.map (memoryHypothesis (deriveLedger state.actionLog) state.evidenceRefs)).find?
    fun item => item.progress = .verificationReady

/-- The first hypothesis ready for verification stands first on a target at which a
reproduction failed and can be retried. -/
def StandsOnRetried (state : AgentRuntimeState) : Prop :=
  ∀ hypothesis target, firstReady state = some hypothesis →
    hypothesis.groundedOnTargets.head? = some target →
      ∃ a ∈ attempts state.actionLog, a.target = target ∧ a.failedTransiently = true

theorem readyHypothesis_eq (state : AgentRuntimeState) (campaign : Option CampaignStrategyState) :
    (directiveInput state campaign).readyHypothesis = firstReady state := by
  refine find?_insertionSort ?_ _
  intro left right hleft hright
  rw [of_decide_eq_true hleft, of_decide_eq_true hright]

theorem execution_of_readiness {ledger : DerivedLedger} {inspected : List MemoryInspectedTarget}
    {hypotheses : List MemoryHypothesis} {capability : JsString → WindowCapability}
    {readiness : ReproductionReadiness}
    (h : reproductionReadiness ledger inspected hypotheses capability = readiness)
    (hexecution : readiness = .refusedDeterministic ∨ readiness = .transientRetryRemaining) :
    deriveExecutionReadiness ledger (groundedTargets hypotheses) capability = some readiness := by
  unfold reproductionReadiness at h
  split at h
  · subst h
    simp at hexecution
  · split at h
    · subst h
      simp at hexecution
    · split at h
      · rename_i execution hsome
        rw [hsome, h]
      · split at h
        · subst h
          simp at hexecution
        · subst h
          simp at hexecution

theorem retryTarget_spec {input : DirectiveInput} {ready : MemoryHypothesis × MemoryInspectedTarget}
    (h : input.retryTarget = some ready) : input.reproductionReadiness = .transientRetryRemaining ∧
      input.readyHypothesis = some ready.1 ∧
        ready.1.groundedOnTargets.head? = some ready.2.target := by
  rw [DirectiveInput.retryTarget] at h
  split at h
  · rename_i hreadiness
    obtain ⟨hready, -⟩ := Option.filter_eq_some_iff.mp h
    unfold DirectiveInput.readyTarget at hready
    obtain ⟨hypothesis, hhypothesis, hready⟩ := Option.bind_eq_some_iff.mp hready
    obtain ⟨target, htarget, hready⟩ := Option.bind_eq_some_iff.mp hready
    obtain ⟨entry, hentry, hready⟩ := Option.bind_eq_some_iff.mp hready
    obtain rfl := Option.some.inj hready
    have hsame : entry.target = target := by
      have hfound := List.find?_some hentry
      exact of_decide_eq_true hfound
    exact ⟨hreadiness, hhypothesis, by rw [htarget, hsame]⟩
  · contradiction

/-- An attempt that failed, can be retried and is still let run. -/
def Retried (history : List Event) (log : List AgentActionRecord) (a : Attempt) : Prop :=
  a ∈ attemptsOf history ∧ a.failedTransiently = true ∧
    detectExhaustedAction log (callKey .rerunSafeReproduction a.argumentDigest) = false

/-- Working memory tells of the attempts that were executed. -/
structure Agrees (history : List Event) (state : AgentRuntimeState)
    (campaign : Option CampaignStrategyState) : Prop where
  counts : (deriveInvestigationMemory state campaign).progress.reproductionAttempts =
    (attemptsOf history).length
  refused : (deriveInvestigationMemory state campaign).progress.reproductionReadiness =
      .refusedDeterministic →
    (∃ a ∈ attemptsOf history, a.failedDeterministically = true) ∨
      ∃ argumentDigest,
        transientActionRetryBudget ≤ transientFailures (attemptsOf history) argumentDigest
  retryable : (deriveInvestigationMemory state campaign).progress.reproductionReadiness =
      .transientRetryRemaining → ∃ a, Retried history state.actionLog a

/-- The retry directive is about a target with a call that is worth a retry. -/
def Directs (history : List Event) (state : AgentRuntimeState)
    (ready : MemoryHypothesis × MemoryInspectedTarget) : Prop :=
  ∃ a, Retried history state.actionLog a ∧ a.target = ready.2.target

variable {ready : MemoryHypothesis × MemoryInspectedTarget}

theorem Tells.retried (h : Tells history state.actionLog)
    (hreadiness : (directiveInput state campaign).reproductionReadiness =
      .transientRetryRemaining) {a : Attempt} (ha : a ∈ attempts state.actionLog)
    (hfailed : a.failedTransiently = true) : Retried history state.actionLog a := by
  have hremains := retryRemains_of_readiness (execution_of_readiness hreadiness (.inr rfl))
  exact ⟨h.ran ▸ ha, hfailed, h.not_exhausted hremains ha hfailed⟩

theorem Tells.agrees (h : Tells history state.actionLog) : Agrees history state campaign where
  counts := by
    change (deriveLedger state.actionLog).reproductions.length = _
    rw [reproductions_eq, List.length_map, h.ran]
  refused hreadiness := by
    rw [← h.ran]
    exact attempts_of_refused (execution_of_readiness hreadiness (.inl rfl))
  retryable hreadiness := by
    have hretry : (directiveInput state campaign).reproductionReadiness =
        .transientRetryRemaining := hreadiness
    obtain ⟨a, ha, hfailed⟩ := (retryRemains_of_readiness
      (execution_of_readiness hretry (.inr rfl))).exists_failed
    exact ⟨a, h.retried hretry ha hfailed⟩

theorem Tells.directs_iff (h : Tells history state.actionLog)
    (hready : (directiveInput state campaign).retryTarget = some ready) :
    Directs history state ready ↔ StandsOnRetried state := by
  obtain ⟨hreadiness, hhypothesis, htarget⟩ := retryTarget_spec hready
  rw [readyHypothesis_eq] at hhypothesis
  constructor
  · rintro ⟨a, ⟨ha, hfailed, -⟩, hsame⟩ hypothesis target hhypothesis' htarget'
    obtain rfl := Option.some.inj (hhypothesis.symm.trans hhypothesis')
    obtain rfl := Option.some.inj (htarget.symm.trans htarget')
    exact ⟨a, h.ran ▸ ha, hsame, hfailed⟩
  · intro hstands
    obtain ⟨a, ha, hsame, hfailed⟩ := hstands ready.1 ready.2.target hhypothesis htarget
    exact ⟨a, h.retried hreadiness ha hfailed, hsame⟩

theorem tells_of_run {rt : Runtime} {argumentDigest : Fields → JsString} {deps : AgentRuntimeDeps}
    {clock : ℤ} {s : State}
    (hrun : Run ((runtimeSystem rt argumentDigest (.create deps) clock).guarded
      fun s e => Fits s.object.actionLog e) history s) : Tells history s.object.actionLog := by
  refine log_of_run ?_ ?_ hrun
  · exact ⟨rfl, by simp, by simp⟩
  · intro past log e log' htells hfits hmove
    exact htells.step hfits hmove

/-- In a run whose steps fit the log, working memory agrees with what was executed; the retry
directive does where the first ready hypothesis stands on a target worth a retry. -/
theorem memory_agrees {rt : Runtime} {argumentDigest : Fields → JsString}
    {deps : AgentRuntimeDeps} {clock : ℤ} {s : State}
    (hrun : Run ((runtimeSystem rt argumentDigest (.create deps) clock).guarded
      fun s e => Fits s.object.actionLog e) history s) (campaign : Option CampaignStrategyState) :
    Agrees history s.object.snapshot campaign ∧
      ∀ ready, (directiveInput s.object.snapshot campaign).retryTarget = some ready →
        (Directs history s.object.snapshot ready ↔ StandsOnRetried s.object.snapshot) := by
  have htells : Tells history s.object.snapshot.actionLog := tells_of_run hrun
  exact ⟨htells.agrees, fun _ hready => htells.directs_iff hready⟩

end Memory

/-- The discarded repeat of reproductions that all succeeded counts as an attempt that failed. -/
theorem discarded_repeat_counts : ∃ s, Run (runtimeSystem plainRuntime emptyArgumentsDigest
      (.create sampleDeps) 0) repeatedHistory s ∧
    (deriveInvestigationMemory s.object.snapshot none).progress.reproductionAttempts = 4 ∧
    (attemptsOf repeatedHistory).length = 3 ∧
    (deriveInvestigationMemory s.object.snapshot none).progress.reproductionReadiness =
      .refusedDeterministic ∧ (∀ a ∈ attemptsOf repeatedHistory, a.failed = false) := by
  have hevaluated : (evaluate (advance plainRuntime emptyArgumentsDigest) sampleStart
      repeatedHistory).any (fun s =>
        (deriveInvestigationMemory s.object.snapshot none).progress.reproductionAttempts = 4 ∧
          (deriveInvestigationMemory s.object.snapshot none).progress.reproductionReadiness =
            .refusedDeterministic) = true := by
    decide +kernel
  obtain ⟨s, hs, hmemory⟩ := (Option.any_eq_true _ _).mp hevaluated
  obtain ⟨hcount, hreadiness⟩ := of_decide_eq_true hmemory
  exact ⟨s, run_of_evaluate hs, hcount, by decide +kernel, hreadiness, by decide +kernel⟩

/-- A reproduction that failed once is worth a retry, and the directive says so. -/
theorem memory_agrees_retried : ∃ (s : State) (ready : MemoryHypothesis × MemoryInspectedTarget),
    (deriveInvestigationMemory s.object.snapshot none).progress.reproductionReadiness =
      .transientRetryRemaining ∧ (directiveInput s.object.snapshot none).retryTarget = some ready ∧
    Agrees retriedHistory s.object.snapshot none ∧
    (Directs retriedHistory s.object.snapshot ready ↔ StandsOnRetried s.object.snapshot) := by
  have hevaluated : (evaluate (restrict (advance plainRuntime emptyArgumentsDigest)
      fun s e => Fits s.object.actionLog e) sampleStart retriedHistory).any (fun s =>
        (deriveInvestigationMemory s.object.snapshot none).progress.reproductionReadiness =
          .transientRetryRemaining ∧
            (directiveInput s.object.snapshot none).retryTarget.isSome) = true := by
    decide +kernel
  obtain ⟨s, hs, hmemory⟩ := (Option.any_eq_true _ _).mp hevaluated
  obtain ⟨hreadiness, hsome⟩ := of_decide_eq_true hmemory
  obtain ⟨ready, hready⟩ := Option.isSome_iff_exists.mp hsome
  obtain ⟨hagrees, hdirects⟩ := memory_agrees (guarded_run_of_evaluate hs) none
  exact ⟨s, ready, hreadiness, hready, hagrees, hdirects ready hready⟩

end NightWatch.WorkingMemory.MemoryRuns
