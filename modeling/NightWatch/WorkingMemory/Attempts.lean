import NightWatch.Lib.Grouping
import NightWatch.WorkingMemory.Derive

namespace NightWatch.WorkingMemory.Attempts

open Lib.JsText Lib.JsData Lib.Grouping AgentProtocol.Vocabulary AgentProtocol.Actions
  WorkingMemory.Ledger WorkingMemory.Derive

structure Attempt where
  target : JsString
  argumentDigest : JsString
  resultClass : JsString
  disposition : Option ActionFailureDisposition

def Attempt.failed (a : Attempt) : Bool := a.resultClass ∉ reproductionVerdicts

def Attempt.failedTransiently (a : Attempt) : Bool :=
  a.failed && a.disposition = some .transientRetryable

def Attempt.blocked (a : Attempt) : Bool := a.failed && a.disposition = some .environmentBlocked

def Attempt.failedDeterministically (a : Attempt) : Bool :=
  a.failed && a.disposition ≠ some .transientRetryable &&
    a.disposition ≠ some .environmentBlocked

def attemptOf (record : AgentActionRecord) : Option Attempt :=
  if record.toolId = rerunTool then
    (boundedString record.target targetChars).map fun target =>
      ⟨target, record.argumentDigest.getD [], record.resultClass, record.disposition⟩
  else none

def attempts (log : List AgentActionRecord) : List Attempt := log.filterMap attemptOf

def transientFailures (attempts : List Attempt) (argumentDigest : JsString) : Nat :=
  attempts.countP fun a => a.failedTransiently && a.argumentDigest = argumentDigest

theorem attempts_concat (log : List AgentActionRecord) (record : AgentActionRecord) :
    attempts (log ++ [record]) = attempts log ++ (attemptOf record).toList := by
  rw [attempts, attempts, List.filterMap_append]
  cases h : attemptOf record with
  | none => simp [h]
  | some a => simp [h]

section Steps

variable {ledger : DerivedLedger} {record : AgentActionRecord}

theorem deriveLedger_concat (log : List AgentActionRecord) (record : AgentActionRecord) :
    deriveLedger (log ++ [record]) = (deriveLedger log).step record := by
  rw [deriveLedger, List.foldl_append]
  rfl

/-- What a record does to the targets, the references and the reproductions. -/
inductive Shape (ledger : DerivedLedger) (record : AgentActionRecord) : Prop
  | idle (hattempt : attemptOf record = none)
      (htargets : (ledger.step record).targets = ledger.targets)
      (hrefs : (ledger.step record).refToTarget = ledger.refToTarget)
      (hreproductions : (ledger.step record).reproductions = ledger.reproductions)
      (htransient : (ledger.step record).transientFailuresByDigest =
        ledger.transientFailuresByDigest)
  | inspects (target : JsString) (hattempt : attemptOf record = none)
      (htool : record.toolId = inspectTool)
      (htarget : boundedString record.target targetChars = some target)
      (hstep : ledger.step record = (ledger.note record).inspect target record)
  | reproduces (target : JsString)
      (hattempt : attemptOf record = some
        ⟨target, record.argumentDigest.getD [], record.resultClass, record.disposition⟩)
      (hstep : ledger.step record = (ledger.note record).reproduce target record)

theorem shape_of_step (ledger : DerivedLedger) (record : AgentActionRecord) :
    Shape ledger record := by
  have hproposal : proposalTool ≠ rerunTool := by decide
  have hinspect : inspectTool ≠ rerunTool := by decide
  cases htarget : boundedString record.target targetChars with
  | none =>
      have hstep : ledger.step record = ledger.note record := by
        simp only [DerivedLedger.step, htarget]
      have hattempt : attemptOf record = none := by
        simp [attemptOf, htarget]
      exact .idle hattempt (by rw [hstep]; rfl) (by rw [hstep]; rfl) (by rw [hstep]; rfl)
        (by rw [hstep]; rfl)
  | some target =>
      by_cases hcaptured : record.toolId = proposalTool ∧
          record.resultClass = "FINDING_PROPOSAL".toList
      · have hstep : ledger.step record = { ledger.note record with
            proposalCandidateIds :=
              pushNew (ledger.note record).proposalCandidateIds target } := by
          simp only [DerivedLedger.step, htarget, if_pos hcaptured]
        have hattempt : attemptOf record = none := by
          rw [attemptOf, if_neg]
          rw [hcaptured.1]
          exact hproposal
        exact .idle hattempt (by rw [hstep]; rfl) (by rw [hstep]; rfl) (by rw [hstep]; rfl)
          (by rw [hstep]; rfl)
      · by_cases hinspected : record.toolId = inspectTool
        · have hattempt : attemptOf record = none := by
            rw [attemptOf, if_neg]
            rw [hinspected]
            exact hinspect
          refine .inspects target hattempt hinspected htarget ?_
          simp only [DerivedLedger.step, htarget, if_neg hcaptured, if_pos hinspected]
        · by_cases hrerun : record.toolId = rerunTool
          · refine .reproduces target ?_ ?_
            · rw [attemptOf, if_pos hrerun, htarget]
              rfl
            · simp only [DerivedLedger.step, htarget, if_neg hcaptured, if_neg hinspected,
                if_pos hrerun]
          · have hstep : ledger.step record = ledger.note record := by
              simp only [DerivedLedger.step, htarget, if_neg hcaptured, if_neg hinspected,
                if_neg hrerun]
            have hattempt : attemptOf record = none := by rw [attemptOf, if_neg hrerun]
            exact .idle hattempt (by rw [hstep]; rfl) (by rw [hstep]; rfl) (by rw [hstep]; rfl)
              (by rw [hstep]; rfl)

theorem targets_inspect (target : JsString) : (ledger.inspect target record).targets =
      mapSet target ((ledger.entryFor target record.resultClass).inspected record)
        ledger.targets := by
  unfold DerivedLedger.inspect
  dsimp only
  split
  · split
    · rfl
    · rfl
  · rfl

theorem untouched_inspect (target : JsString) :
    (ledger.inspect target record).reproductions = ledger.reproductions ∧
      (ledger.inspect target record).transientFailuresByDigest =
        ledger.transientFailuresByDigest := by
  unfold DerivedLedger.inspect
  dsimp only
  split
  · split
    · exact ⟨rfl, rfl⟩
    · exact ⟨rfl, rfl⟩
  · exact ⟨rfl, rfl⟩

end Steps

section Facts

/-- A mark of an entry that attempts alone set. -/
structure Mark (f : TargetLedgerEntry → Bool) (g : Attempt → Bool) : Prop where
  new : ∀ target resultClass, f (newEntry target resultClass) = false
  seen : ∀ entry resultClass, f (entry.seen resultClass) = f entry
  inspected : ∀ entry record, f (entry.inspected record) = f entry
  reproduced : ∀ {entry record a}, attemptOf record = some a →
    f (entry.reproduced record) = (f entry || g a)

variable {f : TargetLedgerEntry → Bool} {g : Attempt → Bool}

theorem Mark.entryFor (h : Mark f g) (ledger : DerivedLedger) (target resultClass : JsString) :
    f (ledger.entryFor target resultClass) = (ledger.targets.lookup target).any f := by
  rw [DerivedLedger.entryFor, h.seen]
  cases ledger.targets.lookup target with
  | none => exact h.new target resultClass
  | some entry => rfl

theorem Mark.lookup (h : Mark f g) (log : List AgentActionRecord) (target : JsString) :
    ((deriveLedger log).targets.lookup target).any f =
      (attempts log).any fun a => a.target = target && g a := by
  induction log using List.reverseRecOn with
  | nil => rfl
  | append_singleton log record ih =>
      rw [deriveLedger_concat, attempts_concat, List.any_append, ← ih]
      cases shape_of_step (deriveLedger log) record with
      | idle hattempt htargets _ _ _ =>
          rw [htargets, hattempt]
          simp
      | inspects target' hattempt _ _ hstep =>
          rw [hstep, targets_inspect, lookup_mapSet, hattempt]
          split
          case isTrue heq =>
            subst heq
            rw [Option.any_some, h.inspected, h.entryFor]
            simp [DerivedLedger.note]
          case isFalse => simp [DerivedLedger.note]
      | reproduces target' hattempt hstep =>
          have htargets : ((deriveLedger log).step record).targets =
              mapSet target' (((deriveLedger log).note record).entryFor target'
                record.resultClass |>.reproduced record) (deriveLedger log).targets := by
            rw [hstep]
            rfl
          rw [htargets, lookup_mapSet, hattempt]
          split
          case isTrue heq =>
            subst heq
            rw [Option.any_some, h.reproduced hattempt, h.entryFor]
            simp [DerivedLedger.note]
          case isFalse hne => simp [Ne.symm hne]

theorem reproductions_eq (log : List AgentActionRecord) : (deriveLedger log).reproductions =
      (attempts log).map fun a => ⟨a.target, a.resultClass⟩ := by
  induction log using List.reverseRecOn with
  | nil => rfl
  | append_singleton log record ih =>
      rw [deriveLedger_concat, attempts_concat, List.map_append, ← ih]
      cases shape_of_step (deriveLedger log) record with
      | idle hattempt _ _ hreproductions _ =>
          rw [hreproductions, hattempt]
          simp
      | inspects target hattempt _ _ hstep =>
          rw [hstep, (untouched_inspect target).1, hattempt]
          simp [DerivedLedger.note]
      | reproduces target hattempt hstep =>
          rw [hstep, hattempt]
          rfl

theorem nodup_targets (log : List AgentActionRecord) :
    ((deriveLedger log).targets.map Prod.fst).Nodup := by
  induction log using List.reverseRecOn with
  | nil => exact List.nodup_nil
  | append_singleton log record ih =>
      rw [deriveLedger_concat]
      cases shape_of_step (deriveLedger log) record with
      | idle _ htargets _ _ _ =>
          rw [htargets]
          exact ih
      | inspects target _ _ _ hstep =>
          rw [hstep, targets_inspect]
          exact nodup_mapSet ih
      | reproduces target _ hstep =>
          rw [hstep]
          exact nodup_mapSet ih

theorem isTransientFailure_iff {record : AgentActionRecord} {a : Attempt}
    (h : attemptOf record = some a) : isTransientFailure record ↔ a.failedTransiently = true := by
  rw [attemptOf] at h
  split at h
  · obtain ⟨target, -, rfl⟩ := Option.map_eq_some_iff.mp h
    simp [isTransientFailure, Attempt.failedTransiently, Attempt.failed]
  · contradiction

/-- Counts by arguments, each of something. -/
structure Counts (counts : List (JsString × Nat)) (attempts : List Attempt) : Prop where
  nodup : (counts.map Prod.fst).Nodup
  counted : ∀ argumentDigest,
    (counts.lookup argumentDigest).getD 0 = transientFailures attempts argumentDigest
  positive : ∀ argumentDigest, counts.lookup argumentDigest ≠ some 0

theorem counts_of_log (log : List AgentActionRecord) :
    Counts (deriveLedger log).transientFailuresByDigest (attempts log) := by
  induction log using List.reverseRecOn with
  | nil =>
      refine ⟨List.nodup_nil, fun _ => rfl, ?_⟩
      simp [deriveLedger, DerivedLedger.empty]
  | append_singleton log record ih =>
      obtain ⟨hnodup, hcounts, hpositive⟩ := ih
      rw [deriveLedger_concat, attempts_concat]
      cases shape_of_step (deriveLedger log) record with
      | idle hattempt _ _ _ htransient =>
          rw [htransient, hattempt]
          exact ⟨hnodup, by simpa using hcounts, hpositive⟩
      | inspects target hattempt _ _ hstep =>
          rw [hstep, (untouched_inspect target).2, hattempt]
          exact ⟨hnodup, by simpa [DerivedLedger.note] using hcounts, hpositive⟩
      | reproduces target hattempt hstep =>
          have htransient : ((deriveLedger log).step record).transientFailuresByDigest =
              if isTransientFailure record then
                countDigest (record.argumentDigest.getD [])
                  (deriveLedger log).transientFailuresByDigest
              else (deriveLedger log).transientFailuresByDigest := by
            rw [hstep]
            rfl
          rw [htransient, hattempt]
          have hiff := isTransientFailure_iff hattempt
          by_cases hfailed : isTransientFailure record
          · have hmark := hiff.mp hfailed
            rw [if_pos hfailed]
            refine ⟨nodup_mapSet hnodup, ?_, ?_⟩
            · intro argumentDigest
              rw [countDigest, lookup_mapSet, transientFailures, List.countP_append]
              split
              case isTrue heq =>
                subst heq
                rw [Option.getD_some, hcounts]
                simp [transientFailures, hmark]
              case isFalse hne =>
                rw [hcounts]
                simp [transientFailures, hmark, Ne.symm hne]
            · intro argumentDigest
              rw [countDigest, lookup_mapSet]
              split
              case isTrue => simp
              case isFalse => exact hpositive argumentDigest
          · have hmark := Bool.eq_false_iff.mpr fun h => hfailed (hiff.mpr h)
            rw [if_neg hfailed]
            refine ⟨hnodup, ?_, hpositive⟩
            intro argumentDigest
            rw [hcounts, transientFailures, transientFailures, List.countP_append]
            simp [hmark]

end Facts

theorem inspected_same (entry : TargetLedgerEntry) (record : AgentActionRecord) :
    (entry.inspected record).reproductionAttempts = entry.reproductionAttempts ∧
      (entry.inspected record).deterministicRefusedHere = entry.deterministicRefusedHere ∧
      (entry.inspected record).environmentRefusedHere = entry.environmentRefusedHere := by
  unfold TargetLedgerEntry.inspected
  dsimp only
  split
  · exact ⟨rfl, rfl, rfl⟩
  · exact ⟨rfl, rfl, rfl⟩

theorem reproduced_marks (entry : TargetLedgerEntry) {record : AgentActionRecord} {a : Attempt}
    (h : attemptOf record = some a) :
    (entry.reproduced record).reproductionAttempts = entry.reproductionAttempts + 1 ∧
      (entry.reproduced record).deterministicRefusedHere =
        (entry.deterministicRefusedHere || a.failedDeterministically) ∧
      (entry.reproduced record).environmentRefusedHere =
        (entry.environmentRefusedHere || a.blocked) := by
  rw [attemptOf] at h
  split at h
  · obtain ⟨target, -, rfl⟩ := Option.map_eq_some_iff.mp h
    unfold TargetLedgerEntry.reproduced Attempt.failedDeterministically Attempt.blocked
      Attempt.failed
    dsimp only
    by_cases hverdict : record.resultClass ∈ reproductionVerdicts
    · rw [if_neg (not_not.mpr hverdict)]
      split_ifs <;> simp [hverdict]
    · rw [if_pos hverdict]
      cases hdisposition : record.disposition with
      | none => simp [hverdict]
      | some disposition => cases disposition <;> simp [hverdict]
  · contradiction

theorem mark_attempted : Mark (fun entry => entry.reproductionAttempts ≠ 0) fun _ => true where
  new _ _ := rfl
  seen _ _ := rfl
  inspected entry record := by simp only [(inspected_same entry record).1]
  reproduced {entry _ _} h := by simp [(reproduced_marks entry h).1]

theorem mark_deterministic : Mark TargetLedgerEntry.deterministicRefusedHere
    Attempt.failedDeterministically where
  new _ _ := rfl
  seen _ _ := rfl
  inspected entry record := (inspected_same entry record).2.1
  reproduced {entry _ _} h := (reproduced_marks entry h).2.1

theorem mark_environment : Mark TargetLedgerEntry.environmentRefusedHere Attempt.blocked where
  new _ _ := rfl
  seen _ _ := rfl
  inspected entry record := (inspected_same entry record).2.2
  reproduced {entry _ _} h := (reproduced_marks entry h).2.2

theorem Mark.any_attempted {f : TargetLedgerEntry → Bool} {g : Attempt → Bool} (h : Mark f g)
    (log : List AgentActionRecord) : (((deriveLedger log).targets.map Prod.snd).filter
      fun entry => entry.reproductionAttempts ≠ 0).any f = (attempts log).any g := by
  have hmem := fun target entry => mem_iff_lookup (nodup_targets log) (k := target) (b := entry)
  rw [Bool.eq_iff_iff, List.any_eq_true, List.any_eq_true]
  constructor
  · rintro ⟨entry, hentry, hf⟩
    obtain ⟨⟨target, _⟩, hpair, rfl⟩ := List.mem_map.mp (List.mem_of_mem_filter hentry)
    have hlookup := h.lookup log target
    rw [(hmem target _).mp hpair, Option.any_some, hf, eq_comm, List.any_eq_true] at hlookup
    obtain ⟨a, ha, hg⟩ := hlookup
    exact ⟨a, ha, (Bool.and_eq_true_iff.mp hg).2⟩
  · rintro ⟨a, ha, hg⟩
    have hmarked : ∀ {f' : TargetLedgerEntry → Bool} {g' : Attempt → Bool}, Mark f' g' →
        g' a = true → ((deriveLedger log).targets.lookup a.target).any f' = true := by
      intro f' g' h' hg'
      rw [h'.lookup, List.any_eq_true]
      exact ⟨a, ha, by simp [hg']⟩
    obtain ⟨entry, hentry, hf⟩ := (Option.any_eq_true f _).mp (hmarked h hg)
    have hattempted := hmarked mark_attempted rfl
    rw [hentry] at hattempted
    refine ⟨entry, List.mem_filter.mpr ⟨?_, hattempted⟩, hf⟩
    exact List.mem_map.mpr ⟨(a.target, entry), (hmem a.target entry).mpr hentry, rfl⟩

section Readiness

variable {log : List AgentActionRecord} {grounded : List JsString}
  {capability : JsString → WindowCapability}

variable (grounded capability) in
theorem predictReadiness_cases : predictReadiness grounded capability = none ∨
      predictReadiness grounded capability = some .notReadyNoExecutableTarget ∨
      predictReadiness grounded capability = some .notReadyTargetBlocked := by
  unfold predictReadiness
  dsimp only
  split_ifs <;> simp

variable {counts : List (JsString × Nat)} {list : List Attempt}

theorem Counts.exists_of_any
    (h : Counts counts list) {p : Nat → Bool} (hany : (counts.map Prod.snd).any p = true) :
    ∃ argumentDigest, 0 < transientFailures list argumentDigest ∧
      p (transientFailures list argumentDigest) = true := by
  obtain ⟨n, hn, hp⟩ := List.any_eq_true.mp hany
  obtain ⟨⟨argumentDigest, _⟩, hpair, rfl⟩ := List.mem_map.mp hn
  have hlookup := (mem_iff_lookup h.nodup).mp hpair
  have hcounted := h.counted argumentDigest
  rw [hlookup, Option.getD_some] at hcounted
  refine ⟨argumentDigest, ?_, hcounted ▸ hp⟩
  rw [← hcounted]
  refine Nat.pos_of_ne_zero fun hzero => h.positive argumentDigest ?_
  rw [hlookup]
  exact congrArg some hzero

theorem Counts.lt_of_not_any (h : Counts counts list) {bound : Nat} (hbound : 0 < bound)
    (hany : (counts.map Prod.snd).any (fun count => bound ≤ count) = false)
    (argumentDigest : JsString) : transientFailures list argumentDigest < bound := by
  rw [← h.counted argumentDigest]
  cases hlookup : counts.lookup argumentDigest with
  | none => exact hbound
  | some n =>
      rw [List.any_eq_false] at hany
      have hmem := List.mem_map_of_mem (f := Prod.snd) ((mem_iff_lookup h.nodup).mpr hlookup)
      simpa using hany n hmem

theorem exists_of_transientFailures_pos {argumentDigest : JsString}
    (h : 0 < transientFailures list argumentDigest) :
    ∃ a ∈ list, a.failedTransiently = true ∧ a.argumentDigest = argumentDigest := by
  obtain ⟨a, ha, hp⟩ := List.countP_pos_iff.mp h
  obtain ⟨hfailed, hdigest⟩ := Bool.and_eq_true_iff.mp hp
  exact ⟨a, ha, hfailed, of_decide_eq_true hdigest⟩

theorem attempts_of_refused (h : deriveExecutionReadiness (deriveLedger log) grounded capability =
      some .refusedDeterministic) : (∃ a ∈ attempts log, a.failedDeterministically = true) ∨
      ∃ argumentDigest,
        transientActionRetryBudget ≤ transientFailures (attempts log) argumentDigest := by
  unfold deriveExecutionReadiness at h
  dsimp only at h
  split_ifs at h with hcurrent hran hmissing hblocked hrefused hpending
  · cases h
  · cases h
  · cases h
  · cases h
  · rcases Bool.or_eq_true_iff.mp hrefused with hmarked | hconsumed
    · rw [mark_deterministic.any_attempted, List.any_eq_true] at hmarked
      exact .inl hmarked
    · obtain ⟨argumentDigest, -, hbudget⟩ := (counts_of_log log).exists_of_any hconsumed
      exact .inr ⟨argumentDigest, of_decide_eq_true hbudget⟩
  · cases h
  · rcases predictReadiness_cases grounded capability with hnone | hmissing' | hblocked'
    · cases hnone.symm.trans h
    · cases hmissing'.symm.trans h
    · cases hblocked'.symm.trans h

/-- Every failure can be retried, once more at least, and there is one. -/
structure RetryRemains (list : List Attempt) : Prop where
  transient : ∀ a ∈ list, a.failed = true → a.failedTransiently = true
  within : ∀ argumentDigest, transientFailures list argumentDigest < transientActionRetryBudget
  exists_failed : ∃ a ∈ list, a.failedTransiently = true

theorem retryRemains_of_readiness
    (h : deriveExecutionReadiness (deriveLedger log) grounded capability =
      some .transientRetryRemaining) : RetryRemains (attempts log) := by
  unfold deriveExecutionReadiness at h
  dsimp only at h
  split_ifs at h with hcurrent hran hmissing hblocked hrefused hpending
  · cases h
  · cases h
  · cases h
  · cases h
  · cases h
  · have hcounts := counts_of_log log
    obtain ⟨hmarked, hconsumed⟩ := Bool.or_eq_false_iff.mp (Bool.eq_false_iff.mpr hrefused)
    rw [mark_deterministic.any_attempted, List.any_eq_false] at hmarked
    have henvironment : (attempts log).any Attempt.blocked = false := by
      rw [← mark_environment.any_attempted]
      apply Bool.eq_false_iff.mpr
      intro hany
      obtain ⟨entry, hentry, hmark⟩ := List.any_eq_true.mp hany
      exact hblocked (List.any_eq_true.mpr ⟨entry, hentry, by simp [hmark]⟩)
    rw [List.any_eq_false] at henvironment
    refine ⟨?_, hcounts.lt_of_not_any (by decide) hconsumed, ?_⟩
    · intro a ha hfailed
      have hdeterministic := hmarked a ha
      have hfree := henvironment a ha
      simp only [Attempt.failedDeterministically, Attempt.blocked, hfailed, Bool.true_and,
        Bool.and_eq_true, decide_eq_true_eq, not_and, not_not] at hdeterministic hfree
      rw [Attempt.failedTransiently, hfailed, Bool.true_and, decide_eq_true_eq]
      by_contra hother
      exact hfree (hdeterministic hother)
    · obtain ⟨argumentDigest, hpos, -⟩ := hcounts.exists_of_any hpending
      obtain ⟨a, ha, hfailed, -⟩ := exists_of_transientFailures_pos hpos
      exact ⟨a, ha, hfailed⟩
  · rcases predictReadiness_cases grounded capability with hnone | hmissing' | hblocked'
    · cases hnone.symm.trans h
    · cases hmissing'.symm.trans h
    · cases hblocked'.symm.trans h

end Readiness

end NightWatch.WorkingMemory.Attempts
