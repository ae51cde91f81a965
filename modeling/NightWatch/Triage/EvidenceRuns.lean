import NightWatch.Triage.EvidenceDto
import NightWatch.Triage.ReplayDiscipline

/-!
Which results of the minimizer can be turned into evidence. The markers of a proven
minimality are present as soon as one deletion of the survivor is on record after a
reduced replay, whatever the class of the result.
-/

namespace NightWatch.Triage.EvidenceRuns

open Lib.Guard Lib.JsText Lib.JsData Lib.JsRuntime Triage.Types Triage.Minimizer
  Triage.CandidateLedger Triage.MinimizerRuns Triage.ReplayDiscipline Triage.EvidenceDto

/-- Some record is of the survivor without one of its actions. -/
def DeletionRecorded (result : MinimizationResult) : Prop :=
  1 < result.minimalReproducingSequence.length ∧
    ∃ i < result.minimalReproducingSequence.length, ∃ evaluation ∈ result.candidateEvaluations,
      evaluation.sequence = result.minimalReproducingSequence.eraseIdx i

/-- The budget is in whole numbers, and the class is the proven one, no reduced candidate was
replayed, or no record is of a deletion of the survivor. -/
structure Reconstructible (result : MinimizationResult) : Prop where
  evaluations : result.budget.maxCandidateEvaluations.isInteger = true
  replays : result.budget.maxTotalReplays.isInteger = true
  unmarked : result.reductionEvidenceClass = .minimalityProven ∨ result.replayCount < 2 ∨
    ¬ DeletionRecorded result

/-- What is known of every returned result of distinct actions. -/
structure Accounted (result : MinimizationResult) : Prop where
  evaluationsLimit : result.budget.maxCandidateEvaluations.lt (.ofNat 0) = false
  replaysLimit : result.budget.maxTotalReplays.lt (.ofNat 0) = false
  evaluationsWithin : Within result.candidateEvaluationCount result.budget.maxCandidateEvaluations
  replaysWithin : Within result.replayCount result.budget.maxTotalReplays
  actions : result.minimalReproducingSequence.Nodup
  named : ∀ id ∈ result.minimalReproducingSequence, id ≠ []
  distinct : (result.candidateEvaluations.map (·.sequence)).Nodup
  attempted : 2 ≤ result.replayCount → reductionAttempted result = true
  invalid : result.status = .invalidOriginal → result.replayCount = 0
  proven : result.reductionEvidenceClass = .minimalityProven →
    2 ≤ result.replayCount ∧ DeletionRecorded result

variable {condition : Bool} {reason : JsString}

theorem refuseIf_eq_ok : refuseIf condition reason = .ok () ↔ condition = false := by
  unfold refuseIf
  cases condition with
  | false => simp
  | true => simp

theorem refuseIf_bind {α : Type} {next : Unit → Except JsString α} {a : α} :
    (refuseIf condition reason >>= next) = .ok a ↔ condition = false ∧ next () = .ok a := by
  rw [bind_eq_ok]
  constructor
  · rintro ⟨_, hrefuse, hnext⟩
    exact ⟨refuseIf_eq_ok.mp hrefuse, hnext⟩
  · rintro ⟨hcondition, hnext⟩
    exact ⟨(), refuseIf_eq_ok.mpr hcondition, hnext⟩

section Deletions

variable {result : MinimizationResult} (h : Accounted result)

include h

theorem length_deletionMatches_le (index : Nat) : (deletionMatches result index).length ≤ 1 := by
  have hsub : List.Sublist ((deletionMatches result index).map (·.sequence))
      (result.candidateEvaluations.map (·.sequence)) := List.filter_sublist.map _
  have hnodup := h.distinct.sublist hsub
  have hsame : ∀ sequence ∈ (deletionMatches result index).map (·.sequence),
      sequence = result.minimalReproducingSequence.eraseIdx index := by
    intro sequence hsequence
    obtain ⟨evaluation, hmem, rfl⟩ := List.mem_map.mp hsequence
    simpa using (List.mem_filter.mp hmem).2
  have hreplicate := List.eq_replicate_of_mem hsame
  rw [hreplicate, List.nodup_replicate, List.length_map] at hnodup
  exact hnodup

theorem survivorDeletion_eq (index : Nat) :
    ∃ deletion, survivorDeletion result index = .ok deletion ∧
      (∀ d ∈ deletion, d.replayPath = .reduced ∧ d.actionId ∈ result.minimalReproducingSequence) ∧
      (index < result.minimalReproducingSequence.length →
        (deletion = none ↔ ∀ evaluation ∈ result.candidateEvaluations,
          evaluation.sequence ≠ result.minimalReproducingSequence.eraseIdx index)) := by
  have hle := length_deletionMatches_le h index
  have hnot : ¬ 1 < (deletionMatches result index).length := by omega
  have hmem : ∀ evaluation, evaluation ∈ deletionMatches result index ↔
      evaluation ∈ result.candidateEvaluations ∧
        evaluation.sequence = result.minimalReproducingSequence.eraseIdx index := by
    intro evaluation
    rw [deletionMatches, List.mem_filter, decide_eq_true_eq]
  rw [survivorDeletion]
  simp only [hnot, decide_false, Bool.false_and, Bool.false_eq_true, if_false]
  generalize hfound : deletionMatches result index = found at hmem hle
  match found with
  | [] =>
      refine ⟨none, rfl, ?_, ?_⟩
      · intro d hd
        contradiction
      · intro _
        apply iff_of_true rfl
        intro evaluation hevaluation hsequence
        exact absurd ((hmem evaluation).mpr ⟨hevaluation, hsequence⟩) List.not_mem_nil
  | [record] =>
      refine ⟨_, rfl, ?_, ?_⟩
      · intro d hd
        obtain ⟨actionId, haction, rfl⟩ := Option.mem_map.mp hd
        exact ⟨rfl, List.mem_of_getElem? haction⟩
      · intro hindex
        rw [List.getElem?_eq_getElem hindex, Option.map_some]
        apply iff_of_false (Option.some_ne_none _)
        intro hall
        obtain ⟨hevaluation, hsequence⟩ := (hmem record).mp List.mem_cons_self
        exact hall record hevaluation hsequence
  | first :: second :: rest =>
      simp only [List.length_cons] at hle
      omega

theorem collectDeletions_eq (indices : List Nat)
    (hindices : ∀ i ∈ indices, i < result.minimalReproducingSequence.length) :
    ∃ deletions, collectDeletions result indices = .ok deletions ∧
      (∀ d ∈ deletions, d.replayPath = .reduced ∧ d.actionId ∈ result.minimalReproducingSequence) ∧
      (deletions = [] ↔ ∀ i ∈ indices, ∀ evaluation ∈ result.candidateEvaluations,
        evaluation.sequence ≠ result.minimalReproducingSequence.eraseIdx i) := by
  induction indices with
  | nil => exact ⟨[], rfl, by simp, by simp⟩
  | cons index rest ih =>
      obtain ⟨deletion, hdeletion, hpath, hnone⟩ := survivorDeletion_eq h index
      obtain ⟨deletions, hdeletions, hpaths, hnil⟩ :=
        ih fun i hi => hindices i (List.mem_cons_of_mem _ hi)
      refine ⟨deletion.toList ++ deletions, ?_, ?_, ?_⟩
      · rw [collectDeletions]
        exact bind_eq_ok.mpr ⟨deletion, hdeletion, bind_eq_ok.mpr ⟨deletions, hdeletions, rfl⟩⟩
      · intro d hd
        rcases List.mem_append.mp hd with hhead | htail
        · exact hpath d (Option.mem_toList.mp hhead)
        · exact hpaths d htail
      · rw [List.append_eq_nil_iff, Option.toList_eq_nil_iff, hnil,
          hnone (hindices index List.mem_cons_self), List.forall_mem_cons]

theorem survivorDeletions_eq : ∃ deletions, survivorDeletions result = .ok deletions ∧
      (∀ d ∈ deletions, d.replayPath = .reduced ∧ d.actionId ∈ result.minimalReproducingSequence) ∧
      (deletions ≠ [] ↔ DeletionRecorded result) := by
  rw [survivorDeletions]
  by_cases hlength : 1 < result.minimalReproducingSequence.length
  · rw [if_pos hlength]
    obtain ⟨deletions, hdeletions, hpaths, hnil⟩ := collectDeletions_eq h
      (List.range result.minimalReproducingSequence.length) fun i hi => List.mem_range.mp hi
    refine ⟨deletions, hdeletions, hpaths, ?_⟩
    rw [ne_eq, hnil, DeletionRecorded]
    constructor
    · intro hnot
      push Not at hnot
      obtain ⟨i, hi, evaluation, hevaluation, hsequence⟩ := hnot
      exact ⟨hlength, i, List.mem_range.mp hi, evaluation, hevaluation, hsequence⟩
    · rintro ⟨-, i, hi, evaluation, hevaluation, hsequence⟩ hall
      exact hall i (List.mem_range.mpr hi) evaluation hevaluation hsequence
  · rw [if_neg hlength]
    refine ⟨[], rfl, by simp, ?_⟩
    apply iff_of_false
    · simp
    · rintro ⟨hlength', -⟩
      exact hlength hlength'

end Deletions

theorem repeatsAction_of_nodup {ids : List JsString} (h : ids.Nodup) :
    repeatsAction ids = false := by
  rw [repeatsAction, List.any_eq_false]
  rintro ⟨id, i⟩ hmem
  obtain ⟨hi, hid⟩ := List.mem_zipIdx' hmem
  simp [hid, h.idxOf_getElem i hi]

theorem isBoundedInt_ofNat (n : Nat) : isBoundedInt (.ofNat n) = true := by
  simp [isBoundedInt, JsNumber.isInteger, JsNumber.ofNat, JsNumber.ge, JsNumber.lt]

theorem exists_nat_of_isInteger {q : ℚ} (hq : 0 ≤ q)
    (h : (JsNumber.finite q).isInteger = true) : ∃ n : Nat, q = n := by
  have hden : q.den = 1 := by simpa [JsNumber.isInteger] using h
  obtain ⟨n, hn⟩ := Int.eq_ofNat_of_zero_le (Rat.num_nonneg.mpr hq)
  refine ⟨n, ?_⟩
  calc
    q = (q.num : ℚ) := (Rat.coe_int_num_of_den_eq_one hden).symm
    _ = ((n : ℤ) : ℚ) := by rw [hn]
    _ = n := Int.cast_natCast n

theorem checkConsumption_iff {name : JsString} {limit : JsNumber} {used : Nat}
    (hname : name.isEmpty = false) (hlimit : limit.lt (.ofNat 0) = false)
    (hwithin : Within used limit) :
    checkConsumption ⟨name, limit, .ofNat used⟩ = .ok () ↔ limit.isInteger = true := by
  have hchecks : checkConsumption ⟨name, limit, .ofNat used⟩ = .ok () ↔
      isBoundedInt limit = true ∧ limit.lt (.ofNat used) = false := by
    rw [checkConsumption, refuseIf_bind, refuseIf_eq_ok]
    simp [hname, isBoundedInt_ofNat]
  rw [hchecks]
  cases limit with
  | finite q =>
      have hq : (0 : ℚ) ≤ q := by simpa [JsNumber.ofNat, JsNumber.lt] using hlimit
      constructor
      · rintro ⟨hbounded, -⟩
        exact (Bool.and_eq_true_iff.mp hbounded).1
      · intro hinteger
        obtain ⟨n, rfl⟩ := exists_nat_of_isInteger hq hinteger
        have hle := hwithin n rfl
        rw [Nat.ceil_natCast] at hle
        refine ⟨isBoundedInt_ofNat n, ?_⟩
        simpa [JsNumber.ofNat, JsNumber.lt] using hle
  | _ => simp [isBoundedInt, JsNumber.isInteger]

theorem dto_eq_ok (rt : Runtime) (sha256Hex : JsString → JsString) {fields : EvidenceFields}
    {evidence : MinimalityEvidence}
    (h : buildMinimalityEvidenceDto rt sha256Hex fields = .ok evidence) :
    evidence.evidenceClass = fields.evidenceClass ∧
      (∀ entry ∈ fields.budget, checkConsumption entry = .ok ()) ∧
      (fields.evidenceClass = .minimalityProven ↔ provenMarkersPresent fields = true) := by
  rw [buildMinimalityEvidenceDto] at h
  obtain ⟨_, -, h⟩ := bind_eq_ok.mp h
  obtain ⟨_, hbudget, h⟩ := bind_eq_ok.mp h
  obtain ⟨-, h⟩ := refuseIf_bind.mp h
  obtain ⟨hmarkers, h⟩ := refuseIf_bind.mp h
  obtain ⟨-, h⟩ := refuseIf_bind.mp h
  cases h
  refine ⟨rfl, forEach_eq_ok.mp hbudget, ?_⟩
  rw [bne_eq_false_iff_eq] at hmarkers
  rw [← hmarkers, decide_eq_true_eq]

theorem exists_dto (rt : Runtime) (sha256Hex : JsString → JsString) (fields : EvidenceFields)
    (hdeletions : ∀ deletion ∈ fields.survivorDeletions, deletion.actionId ≠ [])
    (hbudget : ∀ entry ∈ fields.budget, checkConsumption entry = .ok ())
    (hcount : isBoundedInt fields.exercisedReducedReplayCount = true)
    (hmarkers : fields.evidenceClass = .minimalityProven ↔ provenMarkersPresent fields = true) :
    ∃ evidence, buildMinimalityEvidenceDto rt sha256Hex fields = .ok evidence := by
  have hproven : decide (fields.evidenceClass = .minimalityProven) = provenMarkersPresent fields := by
    rw [Bool.eq_iff_iff, decide_eq_true_eq]
    exact hmarkers
  refine ⟨_, bind_eq_ok.mpr ⟨(), forEach_eq_ok.mpr ?_, bind_eq_ok.mpr ⟨(),
    forEach_eq_ok.mpr hbudget, refuseIf_bind.mpr ⟨?_, refuseIf_bind.mpr ⟨?_,
      refuseIf_bind.mpr ⟨?_, rfl⟩⟩⟩⟩⟩⟩
  · intro deletion hdeletion
    apply refuseIf_eq_ok.mpr
    simpa using hdeletions deletion hdeletion
  · rw [hcount, Bool.not_true]
  · rw [hproven, bne_self_eq_false]
  · by_cases hclass : fields.evidenceClass = .minimalityProven
    · have hpresent := hmarkers.mp hclass
      rw [provenMarkersPresent, Bool.and_eq_true, Bool.and_eq_true] at hpresent
      have hge := hpresent.1.2
      have hlt : fields.exercisedReducedReplayCount.lt (.ofNat 1) = false := by
        cases hvalue : fields.exercisedReducedReplayCount with
        | nan => rfl
        | _ =>
            rw [hvalue] at hge
            simpa [JsNumber.ge, JsNumber.ofNat] using hge
      rw [hlt, Bool.and_false]
    · rw [decide_eq_false hclass, Bool.false_and]

def fieldsOf (result : MinimizationResult) (deletions : List MinimalityDeletionDisposition) :
    EvidenceFields where
  evidenceClass := result.reductionEvidenceClass
  reductionAttempted := reductionAttempted result
  exercisedReducedReplayCount := .ofNat (exercisedCount result)
  survivorDeletions := deletions
  budget :=
    [⟨"maxCandidateEvaluations".toList, result.budget.maxCandidateEvaluations,
        .ofNat result.candidateEvaluationCount⟩,
      ⟨"maxTotalReplays".toList, result.budget.maxTotalReplays, .ofNat result.replayCount⟩]
  survivorActionIds := result.minimalReproducingSequence

section Build

variable {result : MinimizationResult} (h : Accounted result)

include h

theorem budget_iff (deletions : List MinimalityDeletionDisposition) :
    (∀ entry ∈ (fieldsOf result deletions).budget, checkConsumption entry = .ok ()) ↔
      result.budget.maxCandidateEvaluations.isInteger = true ∧
        result.budget.maxTotalReplays.isInteger = true := by
  rw [fieldsOf, List.forall_mem_cons, List.forall_mem_singleton,
    checkConsumption_iff (by decide) h.evaluationsLimit h.evaluationsWithin,
    checkConsumption_iff (by decide) h.replaysLimit h.replaysWithin]

theorem exercisedCount_eq : exercisedCount result = result.replayCount - 1 := by
  rw [exercisedCount]
  by_cases hstatus : result.status = .invalidOriginal
  · rw [if_neg (not_not.mpr hstatus), h.invalid hstatus]
  · rw [if_pos hstatus]

theorem markers_iff {deletions : List MinimalityDeletionDisposition}
    (hpaths : ∀ d ∈ deletions, d.replayPath = .reduced ∧
      d.actionId ∈ result.minimalReproducingSequence)
    (hrecorded : deletions ≠ [] ↔ DeletionRecorded result) :
    provenMarkersPresent (fieldsOf result deletions) = true ↔
      2 ≤ result.replayCount ∧ DeletionRecorded result := by
  have hcount : (JsNumber.ofNat (exercisedCount result)).ge (.ofNat 1) = true ↔
      2 ≤ result.replayCount := by
    rw [exercisedCount_eq h]
    simp [JsNumber.ofNat, JsNumber.ge, JsNumber.lt]
    omega
  rw [provenMarkersPresent, fieldsOf, Bool.and_eq_true, Bool.and_eq_true, hcount, ← hrecorded]
  constructor
  · rintro ⟨⟨-, hreplays⟩, hany⟩
    refine ⟨hreplays, ?_⟩
    rintro rfl
    contradiction
  · rintro ⟨hreplays, hne⟩
    obtain ⟨d, rest, rfl⟩ := List.exists_cons_of_ne_nil hne
    refine ⟨⟨h.attempted hreplays, hreplays⟩, List.any_eq_true.mpr ⟨d, List.mem_cons_self, ?_⟩⟩
    simpa using (hpaths d List.mem_cons_self).1

theorem build_iff (rt : Runtime) (sha256Hex : JsString → JsString) :
    (∃ evidence, buildMinimalityEvidence rt sha256Hex result = .ok evidence ∧
      evidence.evidenceClass = result.reductionEvidenceClass) ↔ Reconstructible result := by
  obtain ⟨deletions, hdeletions, hpaths, hrecorded⟩ := survivorDeletions_eq h
  have hmarkers := markers_iff h hpaths hrecorded
  have hbuild : buildMinimalityEvidence rt sha256Hex result =
      buildMinimalityEvidenceDto rt sha256Hex (fieldsOf result deletions) := by
    rw [buildMinimalityEvidence, repeatsAction_of_nodup h.actions, Bool.false_and, hdeletions]
    rfl
  rw [hbuild]
  constructor
  · rintro ⟨evidence, hevidence, -⟩
    obtain ⟨-, hbudget, hclass⟩ := dto_eq_ok rt sha256Hex hevidence
    obtain ⟨hevaluations, hreplays⟩ := (budget_iff h deletions).mp hbudget
    refine ⟨hevaluations, hreplays, ?_⟩
    by_cases hproven : result.reductionEvidenceClass = .minimalityProven
    · exact Or.inl hproven
    · by_cases hcount : result.replayCount < 2
      · exact Or.inr (Or.inl hcount)
      · refine Or.inr (Or.inr ?_)
        intro hdeletion
        exact hproven (hclass.mpr (hmarkers.mpr ⟨by omega, hdeletion⟩))
  · intro hreconstructible
    obtain ⟨evidence, hevidence⟩ := exists_dto rt sha256Hex (fieldsOf result deletions)
      (fun d hd => h.named _ (hpaths d hd).2)
      ((budget_iff h deletions).mpr ⟨hreconstructible.evaluations, hreconstructible.replays⟩)
      (isBoundedInt_ofNat _) (by
        constructor
        · intro hproven
          exact hmarkers.mpr (h.proven hproven)
        · intro hpresent
          obtain ⟨hcount, hdeletion⟩ := hmarkers.mp hpresent
          rcases hreconstructible.unmarked with hproven | hless | hnone
          · exact hproven
          · omega
          · contradiction)
    exact ⟨evidence, hevidence, (dto_eq_ok rt sha256Hex hevidence).1⟩

end Build

section Results

variable {W : Type} {options : MinimizationOptions W}

theorem limits_of_budget {budget : MinimizationBudget} (h : budgetIsInvalid budget = false) :
    budget.maxCandidateEvaluations.lt (.ofNat 0) = false ∧
      budget.maxTotalReplays.lt (.ofNat 0) = false := by
  rw [budgetIsInvalid, Bool.or_eq_false_iff, Bool.or_eq_false_iff] at h
  obtain ⟨⟨hevaluations, hreplays⟩, -⟩ := h
  refine ⟨hevaluations, ?_⟩
  cases hlimit : budget.maxTotalReplays with
  | finite q =>
      rw [hlimit] at hreplays
      simp only [JsNumber.lt, JsNumber.ofNat, decide_eq_false_iff_not, not_lt, Nat.cast_one,
        Nat.cast_zero] at hreplays ⊢
      linarith
  | negInfinity =>
      rw [hlimit] at hreplays
      contradiction
  | _ => rfl

theorem accounted_of_opening {state : MinimizerState W} {conclusion : Conclusion}
    (hbudget : budgetIsInvalid (budgetOf options) = false) (h : Opening options state)
    (hfresh : conclusion.fresh ≠ .reproduced)
    (hclass : conclusion.evidenceClass ≠ .minimalityProven)
    (hstatus : conclusion.status = .invalidOriginal → state.replayCount = 0) :
    Accounted (resultBase options state conclusion) := by
  obtain ⟨hevaluations, hreplays⟩ := limits_of_budget hbudget
  have hsurvivor : (resultBase options state conclusion).minimalReproducingSequence = [] := by
    simp [resultBase, hfresh]
  have hcount : state.replayCount ≤ 1 := by
    rw [h.count]
    rcases h.invocations with hnone | ⟨invocation, hone, -⟩
    · rw [hnone]
      exact Nat.zero_le _
    · rw [hone]
      exact Nat.le_refl _
  refine ⟨hevaluations, hreplays, ?_, h.within, ?_, ?_, ?_, ?_, hstatus, ?_⟩
  · rw [candidateEvaluationCount_of_opening h.evaluations]
    exact within_zero _
  · rw [hsurvivor]
    exact List.nodup_nil
  · rw [hsurvivor]
    intro id hid
    contradiction
  · show (state.evaluations.map (·.sequence)).Nodup
    rcases hlist : state.evaluations with _ | ⟨evaluation, rest⟩
    · exact List.nodup_nil
    · have hlength := h.evaluations
      rw [hlist, List.length_cons] at hlength
      have hrest : rest = [] := List.length_eq_zero_iff.mp (by omega)
      rw [hrest]
      exact List.nodup_singleton _
  · intro htwo
    have hle : (resultBase options state conclusion).replayCount ≤ 1 := hcount
    omega
  · intro hproven
    exact absurd hproven hclass

theorem map_actionId_occurrences :
    actionIds (occurrences options) = options.originalSequence.map (·.actionId) := by
  rw [actionIds, occurrences]
  apply List.ext_getElem
  · simp
  · intro i hi hi'
    simp

theorem eq_of_actionIds_eq (hdistinct : (actionIds (occurrences options)).Nodup)
    {as bs : List ActionOccurrence} (ha : List.Sublist as (occurrences options))
    (hb : List.Sublist bs (occurrences options)) (h : actionIds as = actionIds bs) : as = bs := by
  apply eq_of_map_eq _ h
  intro a hmem b hmem' hsame
  exact List.inj_on_of_nodup_map hdistinct (ha.subset hmem) (hb.subset hmem') hsame

theorem attempted_of_replays {state : MinimizerState W} (h : Ledger options state)
    (htwo : 2 ≤ state.replayCount) :
    (state.evaluations.drop 1).any (·.disposition ≠ .notEvaluatedBudget) = true := by
  obtain ⟨first, rest, hfirst, -, -, hreduced⟩ := h.replays.original
  rw [h.replays.count, hfirst, List.length_cons] at htwo
  obtain ⟨invocation, hinvocation⟩ := List.exists_mem_of_length_pos (l := rest) (by omega)
  have hproper := (hreduced invocation hinvocation).2
  have hcached := h.replays.cached invocation (hfirst ▸ List.mem_cons_of_mem _ hinvocation)
  obtain ⟨e, he⟩ := Option.isSome_iff_exists.mp hcached
  have hevidence := h.records.evidence invocation.sequence e hproper.sublist he
  obtain ⟨evaluation, hmem, -, hordinals, hdisposition⟩ := hevidence.recorded
  obtain ⟨original, others, horiginal, -, hall⟩ := h.records.original
  rw [horiginal] at hmem ⊢
  rw [List.any_eq_true]
  rcases List.mem_cons.mp hmem with rfl | hrest
  · have hsame := eq_of_ordinals_eq hproper.sublist (List.Sublist.refl _)
      (hordinals.symm.trans hall)
    have hshorter := hproper.shorter
    rw [hsame] at hshorter
    exact absurd hshorter (Nat.lt_irrefl _)
  · refine ⟨evaluation, hrest, ?_⟩
    rw [hdisposition]
    simpa using hevidence.evaluated

theorem accounted_of_concluded {audit : Audit} {state : MinimizerState W}
    (hdistinct : (actionIds (occurrences options)).Nodup)
    (hbudget : budgetIsInvalid (budgetOf options) = false)
    (hids : ∀ item ∈ occurrences options, isActionId item.action.actionId = true)
    (h : AuditKept options audit state) (hstopped : Stopped audit) :
    Accounted (concludeAudit options audit state) := by
  obtain ⟨hevaluations, hreplays⟩ := limits_of_budget hbudget
  refine ⟨hevaluations, hreplays, ?_, h.ledger.replays.within, ?_, ?_, ?_,
    attempted_of_replays h.ledger, ?_, ?_⟩
  · exact h.ledger.records.within.mono (candidateEvaluationCount_le h.ledger.records)
  · exact hdistinct.sublist (h.survives.sublist.map _)
  · intro id hid
    obtain ⟨item, hitem, rfl⟩ := List.mem_map.mp hid
    exact (upTo_iff.mp (hids item (h.survives.sublist.subset hitem))).1
  · apply List.Nodup.map_on _ (h.ledger.records.distinct.of_map _)
    intro x hx y hy hsame
    obtain ⟨a, -, ha, hxa, hxo⟩ := h.ledger.records.placed x hx
    obtain ⟨b, -, hb, hyb, hyo⟩ := h.ledger.records.placed y hy
    have hab := eq_of_actionIds_eq hdistinct ha hb (hxa.symm.trans (hsame.trans hyb))
    apply List.inj_on_of_nodup_map h.ledger.records.distinct hx hy
    rw [hxo, hyo, hab]
  · intro hstatus
    simp only [concludeAudit, resultBase] at hstatus
    split_ifs at hstatus
  · intro hclass
    obtain ⟨hproven, hlength⟩ := (evidenceClass_iff h hstopped).mp hclass
    have hpos : 0 < audit.current.length := by omega
    have hle := h.survives.sublist.length_le
    have hevidence := evidence_of_judged h.ledger
      ((List.eraseIdx_sublist ..).trans h.survives.sublist)
      (deletions_judged h hstopped hproven hlength 0 hpos)
    have hreduced := reducedReplayInvocations_pos h.ledger (hevidence.exercised (Or.inr rfl)) (by
      rw [List.length_eraseIdx_of_lt hpos]
      omega)
    have hcount := h.ledger.replays.reduced
    rw [← h.ledger.replays.count] at hcount
    refine ⟨?_, ?_⟩
    · show 2 ≤ state.replayCount
      omega
    · obtain ⟨evaluation, hmem, hsequence, -⟩ := hevidence.recorded
      have hlengthIds : (actionIds audit.current).length = audit.current.length := List.length_map _
      refine ⟨?_, 0, ?_, evaluation, hmem, ?_⟩
      · show 1 < (actionIds audit.current).length
        omega
      · show 0 < (actionIds audit.current).length
        omega
      · show evaluation.sequence = (actionIds audit.current).eraseIdx 0
        rw [hsequence, actionIds, actionIds, List.eraseIdx_map]

/-- Every result that the minimizer returns for distinct actions becomes evidence of its
own class exactly when it is reconstructible. -/
theorem evidence_iff (rt : Runtime) (sha256Hex : JsString → JsString) {fuel : Nat} {world : W}
    {result : MinimizationResult} {state : MinimizerState W}
    (hrun : minimizeFailure options fuel world = some (.ok result, state))
    (hdistinct : (options.originalSequence.map (·.actionId)).Nodup) :
    (∃ evidence, buildMinimalityEvidence rt sha256Hex result = .ok evidence ∧
      evidence.evidenceClass = result.reductionEvidenceClass) ↔ Reconstructible result := by
  rw [← map_actionId_occurrences] at hdistinct
  apply build_iff
  have hends := ends_minimizeFailure hrun
  cases hends with
  | @invalidOriginal world hbudget =>
      have hopening : Opening options { MinimizerState.start world with invalidCandidateCount := 1 } :=
        ⟨Or.inl rfl, rfl, within_zero _, Nat.zero_le _⟩
      exact accounted_of_opening hbudget hopening FreshExactReplay.noConfusion
        ReductionEvidenceClass.noConfusion fun _ => rfl
  | @unreproduced disposition _ hbudget hopening hdisposition =>
      apply accounted_of_opening hbudget hopening
      · dsimp only
        split_ifs <;> decide
      · exact ReductionEvidenceClass.noConfusion
      · intro hstatus
        contradiction
  | concluded hbudget hids h hstopped =>
      exact accounted_of_concluded hdistinct hbudget hids h hstopped

end Results

theorem sample_evidence : ∃ result evidence,
    buildMinimalityEvidence plainRuntime id result = .ok evidence ∧
      evidence.evidenceClass = .minimalityProven := by
  obtain ⟨result, state, hrun, hread⟩ := exists_result (pairOptions realDevMinimizationBudget) 10 ()
    (fun result => (result.budget, result.reductionEvidenceClass))
    (realDevMinimizationBudget, .minimalityProven) (by decide +kernel)
  obtain ⟨hbudget, hclass⟩ := Prod.mk.inj hread
  have hreconstructible : Reconstructible result := by
    refine ⟨?_, ?_, Or.inl hclass⟩
    · rw [hbudget]
      decide +kernel
    · rw [hbudget]
      decide +kernel
  obtain ⟨evidence, hevidence, hsame⟩ :=
    (evidence_iff plainRuntime id hrun (by decide)).mpr hreconstructible
  exact ⟨result, evidence, hevidence, hsame.trans hclass⟩

def oneCandidateBudget : MinimizationBudget where
  policyVersion := "nightwatch.minimization-budget.private.v1".toList
  maxCandidateEvaluations := .ofNat 1
  maxTotalReplays := .ofNat 5

/-- The result of a run that exhausts its budget cannot be turned into evidence. -/
theorem exhausted_result_throws : ∃ result state,
    minimizeFailure (pairOptions oneCandidateBudget) 10 () = some (.ok result, state) ∧
      ((pairOptions oneCandidateBudget).originalSequence.map (·.actionId)).Nodup ∧
      buildMinimalityEvidence plainRuntime id result =
        .error (evidenceError "PROVEN_MARKERS_MISMATCH_CLASS:MINIMALITY_NOT_PROVEN".toList) := by
  obtain ⟨result, state, hrun, hread⟩ := exists_result (pairOptions oneCandidateBudget) 10 ()
    (buildMinimalityEvidence plainRuntime id)
    (.error (evidenceError "PROVEN_MARKERS_MISMATCH_CLASS:MINIMALITY_NOT_PROVEN".toList))
    (by decide +kernel)
  exact ⟨result, state, hrun, by decide, hread⟩

end NightWatch.Triage.EvidenceRuns
