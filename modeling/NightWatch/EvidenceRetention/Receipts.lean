import NightWatch.EvidenceRetention.JournalRuns

namespace NightWatch.EvidenceRetention.Receipts

open Lib.JsText Lib.Machine Lib.Threads EvidenceRetention.Records EvidenceRetention.Journal
  EvidenceRetention.JournalRuns

section Accounts

def preservedTargets (targets : List RetentionJournalTarget) : List RetentionJournalTarget :=
  targets.filter fun target => target.result = .preserved

/-- A target reports the removal of a candidate of this name. -/
def WasRemoved (targets : List RetentionJournalTarget) (name : JsString) : Prop :=
  ∃ target ∈ targets, target.name = name ∧ target.result = .removed

/-- The record accounts for exactly its prepared candidates. -/
structure Accounts (record : RetentionOperationRecord) : Prop where
  nodup : (record.targets.map RetentionJournalTarget.name).Nodup
  names : (record.targets.map RetentionJournalTarget.name).Perm
    (record.candidates.map RetentionJournalCandidate.name)
  deletedSet : record.deletedSet.Subperm record.candidates
  counts : (record.removedCount : ℤ) + (preservedTargets record.targets).length =
    record.candidateCount
  applied : record.status = .applied ↔
    ∀ candidate ∈ record.candidates, WasRemoved record.targets candidate.name
  preserved : record.status = .preserved ↔
    ∀ candidate ∈ record.candidates, ¬ WasRemoved record.targets candidate.name

structure Matches (intent : RetentionOperationIntent) (targets : List RetentionJournalTarget) :
    Prop where
  nodup : (targets.map RetentionJournalTarget.name).Nodup
  names : (targets.map RetentionJournalTarget.name).Perm
    (intent.candidates.map RetentionJournalCandidate.name)
  sizes : ∀ target ∈ targets, target.result = .removed → target.candidate ∈ intent.candidates
  counted : intent.candidateCount = intent.candidates.length

variable {intent : RetentionOperationIntent} {targets : List RetentionJournalTarget}

variable {target : RetentionJournalTarget}

theorem mem_removedTargets :
    target ∈ removedTargets targets ↔ target ∈ targets ∧ target.result = .removed := by
  rw [removedTargets, List.mem_filter, decide_eq_true_iff]

theorem length_removed_add_preserved (targets : List RetentionJournalTarget) :
    (removedTargets targets).length + (preservedTargets targets).length = targets.length := by
  induction targets with
  | nil => rfl
  | cons target rest ih =>
      rw [removedTargets, preservedTargets] at ih ⊢
      rw [List.filter_cons, List.filter_cons, List.length_cons]
      rcases hresult : target.result with _ | _
      · simp only [decide_true, if_true, List.length_cons, reduceCtorEq, decide_false,
          Bool.false_eq_true, if_false]
        omega
      · simp only [decide_true, if_true, List.length_cons, reduceCtorEq, decide_false,
          Bool.false_eq_true, if_false]
        omega

theorem removedTargets_eq_nil_iff :
    (removedTargets targets).length = 0 ↔ ∀ target ∈ targets, target.result ≠ .removed := by
  rw [List.length_eq_zero_iff, removedTargets, List.filter_eq_nil_iff]
  simp only [decide_eq_true_eq, ne_eq]

theorem length_removedTargets_eq_iff : (removedTargets targets).length = targets.length ↔
      ∀ target ∈ targets, target.result = .removed := by
  rw [removedTargets, List.length_filter_eq_length_iff]
  simp only [decide_eq_true_eq]

theorem wasRemoved_iff_of_perm (hnames : (targets.map RetentionJournalTarget.name).Perm
      (intent.candidates.map RetentionJournalCandidate.name))
    (p : JsString → Prop) : (∀ candidate ∈ intent.candidates, p candidate.name) ↔
      ∀ target ∈ targets, p target.name := by
  have hmem : ∀ name, name ∈ targets.map RetentionJournalTarget.name ↔
      name ∈ intent.candidates.map RetentionJournalCandidate.name := fun _ => hnames.mem_iff
  constructor
  · intro h target htarget
    obtain ⟨candidate, hcandidate, hname⟩ :=
      List.mem_map.mp ((hmem target.name).mp (List.mem_map_of_mem htarget))
    rw [← hname]
    exact h candidate hcandidate
  · intro h candidate hcandidate
    obtain ⟨target, htarget, hname⟩ :=
      List.mem_map.mp ((hmem candidate.name).mpr (List.mem_map_of_mem hcandidate))
    rw [← hname]
    exact h target htarget

theorem wasRemoved_iff (hnodup : (targets.map RetentionJournalTarget.name).Nodup) (htarget : target ∈ targets) :
    WasRemoved targets target.name ↔ target.result = .removed := by
  constructor
  · rintro ⟨other, hother, hname, hresult⟩
    rw [← List.inj_on_of_nodup_map hnodup hother htarget hname]
    exact hresult
  · intro hresult
    exact ⟨target, htarget, rfl, hresult⟩

theorem outcomeStatus_applied_iff (hne : targets ≠ []) :
    outcomeStatus targets = .applied ↔ ∀ target ∈ targets, target.result = .removed := by
  rw [← length_removedTargets_eq_iff, outcomeStatus]
  have hpos : targets.length ≠ 0 := by
    rw [ne_eq, List.length_eq_zero_iff]
    exact hne
  by_cases hnone : (removedTargets targets).length = 0
  · rw [if_pos hnone, hnone]
    exact iff_of_false (by decide) hpos.symm
  · rw [if_neg hnone]
    by_cases hall : (removedTargets targets).length = targets.length
    · rw [if_pos hall]
      exact iff_of_true rfl hall
    · rw [if_neg hall]
      exact iff_of_false (by decide) hall

theorem outcomeStatus_preserved_iff :
    outcomeStatus targets = .preserved ↔ ∀ target ∈ targets, target.result ≠ .removed := by
  rw [← removedTargets_eq_nil_iff, outcomeStatus]
  by_cases hnone : (removedTargets targets).length = 0
  · rw [if_pos hnone]
    exact iff_of_true rfl hnone
  · rw [if_neg hnone]
    refine iff_of_false ?_ hnone
    by_cases hall : (removedTargets targets).length = targets.length
    · rw [if_pos hall]
      decide
    · rw [if_neg hall]
      decide

theorem subperm_deletedSet (hmatches : Matches intent targets) :
    ((removedTargets targets).map RetentionJournalTarget.candidate).Subperm intent.candidates := by
  refine List.subperm_of_subset ?_ ?_
  · have hnames : ((removedTargets targets).map RetentionJournalTarget.name).Nodup :=
      hmatches.nodup.sublist (List.filter_sublist.map _)
    refine List.Nodup.of_map RetentionJournalCandidate.name ?_
    rw [List.map_map]
    exact hnames
  · intro candidate hcandidate
    obtain ⟨target, htarget, rfl⟩ := List.mem_map.mp hcandidate
    obtain ⟨hmem, hresult⟩ := mem_removedTargets.mp htarget
    exact hmatches.sizes target hmem hresult

theorem accounts_iff (hcandidates : assertCandidates intent.candidates = true) :
    Accounts (terminalRecord intent targets) ↔ Matches intent targets := by
  have hcandidates_ne : intent.candidates ≠ [] := by
    intro hnil
    rw [hnil] at hcandidates
    exact absurd hcandidates (by decide)
  constructor
  · intro h
    refine ⟨h.nodup, h.names, ?_, ?_⟩
    · intro target htarget hresult
      exact h.deletedSet.subset
        (List.mem_map_of_mem (mem_removedTargets.mpr ⟨htarget, hresult⟩))
    · have hcounts : ((removedTargets targets).length : ℤ) + (preservedTargets targets).length =
          intent.candidateCount := h.counts
      have hlength := h.names.length_eq
      rw [List.length_map, List.length_map] at hlength
      have hsum := length_removed_add_preserved targets
      have hlength' : targets.length = intent.candidates.length := hlength
      omega
  · intro h
    have hlength := h.names.length_eq
    rw [List.length_map, List.length_map] at hlength
    have htargets_ne : targets ≠ [] := by
      rintro rfl
      exact hcandidates_ne (List.length_eq_zero_iff.mp hlength.symm)
    refine ⟨h.nodup, h.names, subperm_deletedSet h, ?_, ?_, ?_⟩
    · have hsum := length_removed_add_preserved targets
      show ((removedTargets targets).length : ℤ) + (preservedTargets targets).length =
        intent.candidateCount
      rw [h.counted]
      omega
    · show outcomeStatus targets = .applied ↔
        ∀ candidate ∈ intent.candidates, WasRemoved targets candidate.name
      rw [outcomeStatus_applied_iff htargets_ne, wasRemoved_iff_of_perm h.names]
      exact forall₂_congr fun target htarget => (wasRemoved_iff h.nodup htarget).symm
    · show outcomeStatus targets = .preserved ↔
        ∀ candidate ∈ intent.candidates, ¬ WasRemoved targets candidate.name
      rw [outcomeStatus_preserved_iff,
        wasRemoved_iff_of_perm h.names fun name => ¬ WasRemoved targets name]
      exact forall₂_congr fun target htarget => not_congr (wasRemoved_iff h.nodup htarget).symm

end Accounts

section Runs

variable {history : List (Event Call)} {pool : Pool fileSystem Result Call}

/-- Every record that a finalize call returns is made from the prepared record on file, and
accounts for its candidates exactly when the supplied targets match them. -/
theorem receipt_accounts_iff (hrun : Run journal history pool) {i : Nat}
    {stamp operationId : JsString} {targets : List RetentionJournalTarget} {record : Fields}
    (hdone : pool.threads[i]? =
      some (.finalize stamp operationId targets, some (.done (.ok record)))) :
    ∃ intent, Prepared operationId intent pool.shared ∧
      record = (terminalRecord intent targets).fields ∧
      (Accounts (terminalRecord intent targets) ↔ Matches intent targets) := by
  obtain ⟨intent, hprepared, -, hrecord, -⟩ := outcome_of_run hrun hdone record rfl
  exact ⟨intent, hprepared, hrecord, accounts_iff hprepared.candidates⟩

def matching : List RetentionJournalTarget := [⟨"old".toList, .removed, "REMOVED".toList, some 10⟩]

def stray : List RetentionJournalTarget := [⟨"new".toList, .removed, "REMOVED".toList, some 99⟩]

theorem receipt_accounts_matching : ∃ pool, (∃ history, Run journal history pool) ∧
    ∃ intent, Prepared oneCandidate.operationId intent pool.shared ∧
      (terminalRecord oneCandidate matching).fields = (terminalRecord intent matching).fields ∧
      (Accounts (terminalRecord intent matching) ↔ Matches intent matching) := by
  obtain ⟨history, pool, hrun, -, hthreads⟩ := exists_run_operation [] isOperationId_oneCandidate
    assertCandidates_oneCandidate (show assertTargets matching = true by decide)
  have hsecond := congrArg (fun threads => threads[1]?) hthreads
  exact ⟨pool, ⟨history, hrun⟩, receipt_accounts_iff hrun hsecond⟩

/-- A finalize call returns an applied receipt for a name that was not prepared. -/
theorem stray_receipt : ¬ ∀ (history : List (Event Call)) (pool : Pool fileSystem Result Call)
    (i : Nat) (stamp operationId : JsString) (intent : RetentionOperationIntent)
    (targets : List RetentionJournalTarget), Run journal history pool →
      Prepared operationId intent pool.shared →
      pool.threads[i]? = some (.finalize stamp operationId targets,
        some (.done (.ok (terminalRecord intent targets).fields))) →
      Accounts (terminalRecord intent targets) := by
  intro h
  obtain ⟨history, pool, hrun, hprepared, hthreads⟩ := exists_run_operation []
    isOperationId_oneCandidate assertCandidates_oneCandidate
    (show assertTargets stray = true by decide)
  have hsecond := congrArg (fun threads => threads[1]?) hthreads
  have hnames := (h history pool 1 [] _ oneCandidate stray hrun hprepared hsecond).names
  have hmem : "new".toList ∈ ["old".toList] := hnames.mem_iff.mp (List.mem_cons_self ..)
  exact absurd hmem (by decide)

end Runs

end NightWatch.EvidenceRetention.Receipts
