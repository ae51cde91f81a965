import NightWatch.ChangeIntelligence.Selection
import NightWatch.Lib.Gathering

/-!
What a selection loses. The loops of `selectJourneys` only ever add journeys, the fallback
and runtime files, so a selection is the union of what each changed file adds; a rename
whose two endpoints are judged as one text adds nothing where either of them looks like
documentation or a test.
-/

namespace NightWatch.ChangeIntelligence

open Lib.JsText Lib.Gathering

inductive Effect
  | journey (j : JourneyId)
  | fallback
  | runtime

def Progress.effects (p : Progress) : Set Effect
  | .journey j => (p.reasonsByJourney j).isSome
  | .fallback => p.fallback
  | .runtime => p.runtimeFileCount ≠ 0

def edgeEffects (repos : List RepoDefinition) (edge : DependencyEdge) : Set Effect
  | .journey j => j ∈ expandTargets edge
  | .fallback => isStale repos edge
  | .runtime => False

def InScope (repos : List RepoDefinition) (repoId : JsString) : Prop :=
  (repoById repos repoId).map RepoDefinition.scope = some .inScope

def Excluded (repos : List RepoDefinition) (repoId : JsString) : Prop :=
  (repoById repos repoId).map RepoDefinition.scope = some .reviewedExcluded

/-- The file is counted among the runtime files. -/
def CountsAsRuntime (repos : List RepoDefinition) (file : ChangedFile) : Prop :=
  nonRuntimeReason file.repoId file = none ∧ ¬Excluded repos file.repoId

def fileEffects (repos : List RepoDefinition) (edges : List DependencyEdge)
    (file : ChangedFile) : Set Effect
  | .journey j => CountsAsRuntime repos file ∧ InScope repos file.repoId ∧
      ∃ edge ∈ fileEdges edges file, j ∈ expandTargets edge
  | .fallback => CountsAsRuntime repos file ∧ (InScope repos file.repoId →
      fileEdges edges file = [] ∨ ∃ edge ∈ fileEdges edges file, isStale repos edge)
  | .runtime => CountsAsRuntime repos file

/-- The journey is among what a changed file calls for, by an edge or by the fallback. -/
def CallsFor (repos : List RepoDefinition) (edges : List DependencyEdge) (file : ChangedFile)
    (j : JourneyId) : Prop :=
  .journey j ∈ fileEffects repos edges file ∨ .fallback ∈ fileEffects repos edges file

section Membership

variable {repos : List RepoDefinition} {edges : List DependencyEdge} {edge : DependencyEdge}
  {file : ChangedFile} {j : JourneyId}

@[simp] theorem journey_mem_edgeEffects :
    Effect.journey j ∈ edgeEffects repos edge ↔ j ∈ expandTargets edge := Iff.rfl

@[simp] theorem fallback_mem_edgeEffects :
    Effect.fallback ∈ edgeEffects repos edge ↔ isStale repos edge = true := Iff.rfl

@[simp] theorem runtime_mem_edgeEffects : Effect.runtime ∉ edgeEffects repos edge := id

@[simp] theorem journey_mem_fileEffects : Effect.journey j ∈ fileEffects repos edges file ↔
      CountsAsRuntime repos file ∧ InScope repos file.repoId ∧
        ∃ edge ∈ fileEdges edges file, j ∈ expandTargets edge := Iff.rfl

@[simp] theorem fallback_mem_fileEffects : Effect.fallback ∈ fileEffects repos edges file ↔
      CountsAsRuntime repos file ∧ (InScope repos file.repoId →
        fileEdges edges file = [] ∨
          ∃ edge ∈ fileEdges edges file, isStale repos edge = true) := Iff.rfl

@[simp] theorem runtime_mem_fileEffects :
    Effect.runtime ∈ fileEffects repos edges file ↔ CountsAsRuntime repos file := Iff.rfl

theorem fileEffects_of_not_counts (h : ¬CountsAsRuntime repos file) :
    fileEffects repos edges file = ∅ := by
  apply Set.eq_empty_of_forall_notMem
  rintro (j | - | -)
  · simp [h]
  · simp [h]
  · simp [h]

end Membership

theorem not_excluded_of_inScope {repos : List RepoDefinition} {repoId : JsString}
    (h : InScope repos repoId) : ¬Excluded repos repoId := by
  intro hexcluded
  rw [Excluded, h] at hexcluded
  contradiction

theorem isRuntimeChange_repoById {repos : List RepoDefinition} {file : ChangedFile} :
    isRuntimeChange (repoById repos file.repoId) file = true ↔
      InScope repos file.repoId ∧ nonRuntimeReason file.repoId file = none := by
  unfold InScope
  cases hrepo : repoById repos file.repoId with
  | none => simp [isRuntimeChange]
  | some repo =>
      have hid : repo.repoId = file.repoId := by simpa using List.find?_some hrepo
      simp [isRuntimeChange, hid]

/-! ### One step -/

section Effects

variable {p : Progress} {j : JourneyId}

@[simp] theorem journey_mem_effects :
    Effect.journey j ∈ p.effects ↔ (p.reasonsByJourney j).isSome = true := Iff.rfl

@[simp] theorem fallback_mem_effects : Effect.fallback ∈ p.effects ↔ p.fallback = true := Iff.rfl

@[simp] theorem runtime_mem_effects : Effect.runtime ∈ p.effects ↔ p.runtimeFileCount ≠ 0 :=
  Iff.rfl

end Effects

theorem effects_start : Progress.start.effects = ∅ := by
  apply Set.eq_empty_of_forall_notMem
  rintro (j | - | -)
  · simp [Progress.start]
  · simp [Progress.start]
  · simp [Progress.start]

theorem effects_addReason (reason : ImpactReason) (j : JourneyId) (p : Progress) :
    (p.addReason reason j).effects = p.effects ∪ {.journey j} := by
  apply Set.ext
  rintro (j' | - | -)
  · by_cases hj : j' = j
    · simp [Progress.addReason, hj]
    · simp [Progress.addReason, hj]
  · simp [Progress.addReason]
  · simp [Progress.addReason]

theorem effects_fallBack (file : ChangedFile) (code : ReasonCode) (reason : JsString)
    (p : Progress) : (p.fallBack file code reason).effects = p.effects ∪ {.fallback} := by
  apply Set.ext
  rintro (j | - | -)
  · simp [Progress.fallBack]
  · simp [Progress.fallBack]
  · simp [Progress.fallBack]

theorem effects_countRuntime (p : Progress) :
    ({ p with runtimeFileCount := p.runtimeFileCount + 1 } : Progress).effects =
      p.effects ∪ {.runtime} := by
  apply Set.ext
  rintro (j | - | -)
  · simp
  · simp
  · simp

theorem effects_countNonRuntime (p : Progress) :
    ({ p with nonRuntimeFileCount := p.nonRuntimeFileCount + 1 } : Progress).effects =
      p.effects := rfl

section Steps

variable (digests : Digests) {repos : List RepoDefinition} {edges : List DependencyEdge}
  {file : ChangedFile}

variable (file) in
theorem reasonForEdge_ok {edge : DependencyEdge} (htarget : expandTargets edge ≠ [])
    (stale : Bool) : ∃ reason, reasonForEdge digests edge file stale = .ok reason := by
  unfold reasonForEdge
  cases hids : expandTargets edge with
  | nil => contradiction
  | cons j rest => exact ⟨_, rfl⟩

theorem effects_stale (edge : DependencyEdge) (p : Progress) (reason : JsString) :
    (if isStale repos edge then p.fallBack file .staleEdge reason else p).effects =
      p.effects ∪ {e | isStale repos edge = true ∧ e = .fallback} := by
  by_cases h : isStale repos edge = true
  · rw [if_pos h, effects_fallBack]
    simp [h]
  · rw [if_neg h]
    simp [h]

theorem visitEdge_effects {edge : DependencyEdge} (htarget : expandTargets edge ≠ [])
    (p : Progress) : ∃ p', visitEdge digests repos file p edge = .ok p' ∧
      p'.effects = p.effects ⊔ edgeEffects repos edge := by
  obtain ⟨reason, hreason⟩ := reasonForEdge_ok digests file htarget
    (isStale repos edge)
  refine ⟨_, by simp only [visitEdge, hreason]; rfl, ?_⟩
  rw [foldl_gathers (fun p j => effects_addReason _ j p), effects_stale]
  apply Set.ext
  intro e
  rw [mem_sup, mem_sup, mem_gathered]
  cases e with
  | journey j => simp
  | fallback => simp
  | runtime => simp

variable (repos file) in
theorem visitEdges_effects {found : List DependencyEdge}
    (htarget : ∀ edge ∈ found, expandTargets edge ≠ []) (p : Progress) :
    ∃ p', found.foldlM (visitEdge digests repos file) p = .ok p' ∧
      p'.effects = p.effects ⊔ gathered (edgeEffects repos) found :=
  foldlM_gathers (fun edge hedge p => visitEdge_effects digests (htarget edge hedge) p) p

theorem fileEdges_subset : fileEdges edges file ⊆ edges := List.filter_subset_self _

theorem visitFile_effects (htarget : ∀ edge ∈ edges, expandTargets edge ≠ []) (p : Progress) :
    ∃ p', visitFile digests repos edges p file = .ok p' ∧
      p'.effects = p.effects ⊔ fileEffects repos edges file := by
  unfold visitFile
  by_cases hreason : nonRuntimeReason file.repoId file = none
  · have hsome : (nonRuntimeReason file.repoId file).isSome = false := by simp [hreason]
    rw [if_neg (by simp [hsome])]
    by_cases hscope : InScope repos file.repoId
    · have hruntime := isRuntimeChange_repoById.mpr ⟨hscope, hreason⟩
      have hcounts : CountsAsRuntime repos file := ⟨hreason, not_excluded_of_inScope hscope⟩
      rw [if_neg (by simp [hruntime])]
      cases hfound : fileEdges edges file with
      | nil =>
          refine ⟨_, rfl, ?_⟩
          rw [effects_fallBack, effects_countRuntime]
          apply Set.ext
          rintro (j | - | -)
          · simp [hfound]
          · simp [hfound, hcounts]
          · simp [hcounts]
      | cons edge rest =>
          have hfoundTargets : ∀ e ∈ edge :: rest, expandTargets e ≠ [] := by
            intro e he
            exact htarget e (fileEdges_subset (hfound ▸ he))
          obtain ⟨p', hp', heffects⟩ := visitEdges_effects digests repos file
            hfoundTargets { p with runtimeFileCount := p.runtimeFileCount + 1 }
          refine ⟨p', hp', ?_⟩
          rw [heffects, effects_countRuntime, ← hfound]
          apply Set.ext
          intro e
          rw [mem_sup, mem_sup, mem_gathered]
          cases e with
          | journey j => simp [hcounts, hscope]
          | fallback => simp [hcounts, hscope, hfound]
          | runtime => simp [hcounts]
    · have hruntime : isRuntimeChange (repoById repos file.repoId) file = false := by
        apply Bool.eq_false_iff.mpr
        intro h
        exact hscope (isRuntimeChange_repoById.mp h).1
      rw [if_pos (by simp [hruntime])]
      by_cases hexcluded : Excluded repos file.repoId
      · refine ⟨_, if_pos hexcluded, ?_⟩
        have hnot : ¬CountsAsRuntime repos file := fun h => h.2 hexcluded
        rw [effects_countNonRuntime, fileEffects_of_not_counts hnot]
        exact (sup_bot_eq _).symm
      · have hcounts : CountsAsRuntime repos file := ⟨hreason, hexcluded⟩
        refine ⟨_, if_neg hexcluded, ?_⟩
        rw [effects_fallBack, effects_countRuntime]
        apply Set.ext
        rintro (j | - | -)
        · simp [hscope]
        · simp [hcounts, hscope]
        · simp [hcounts]
  · have hsome : (nonRuntimeReason file.repoId file).isSome = true :=
      Option.isSome_iff_ne_none.mpr hreason
    have hnot : ¬CountsAsRuntime repos file := fun h => hreason h.1
    refine ⟨_, if_pos hsome, ?_⟩
    rw [effects_countNonRuntime, fileEffects_of_not_counts hnot]
    exact (sup_bot_eq _).symm

variable (repos) in
theorem visitFiles_effects (htarget : ∀ edge ∈ edges, expandTargets edge ≠ [])
    (files : List ChangedFile) (p : Progress) :
    ∃ p', files.foldlM (visitFile digests repos edges) p = .ok p' ∧
      p'.effects = p.effects ⊔ gathered (fileEffects repos edges) files := by
  apply foldlM_gathers
  intro file _ p
  exact visitFile_effects digests htarget p

end Steps

/-! ### The selection -/

def SelectionResult.Selects (result : SelectionResult) (j : JourneyId) : Prop :=
  ∃ selected ∈ result.selectedJourneys, selected.journeyId = j

section Selections

variable {digests : Digests} {changeset : ChangeSet} {repos : List RepoDefinition}
  {edges : List DependencyEdge} {result : SelectionResult}

variable (digests changeset) in
theorem isSome_reasonsAfterFallback {p : Progress} {j : JourneyId} :
    (p.reasonsAfterFallback digests changeset j).isSome = true ↔
      .journey j ∈ p.effects ∨ .fallback ∈ p.effects := by
  unfold Progress.reasonsAfterFallback
  cases hreasons : p.reasonsByJourney j with
  | some reasons => simp [hreasons]
  | none =>
      cases hfallback : p.fallback with
      | true => simp [hfallback]
      | false => simp [hreasons, hfallback]

theorem selects_selectionOf {p : Progress} {j : JourneyId} :
    (selectionOf digests changeset p).Selects j ↔
      .journey j ∈ p.effects ∨ .fallback ∈ p.effects := by
  rw [← isSome_reasonsAfterFallback digests changeset]
  constructor
  · rintro ⟨selected, hmem, rfl⟩
    obtain ⟨j, -, hj⟩ := List.mem_filterMap.mp (List.mem_mergeSort.mp hmem)
    obtain ⟨reasons, hreasons, rfl⟩ := Option.map_eq_some_iff.mp hj
    exact Option.isSome_iff_exists.mpr ⟨reasons, hreasons⟩
  · intro hsome
    obtain ⟨reasons, hreasons⟩ := Option.isSome_iff_exists.mp hsome
    refine ⟨selectedJourney p.fallback j reasons, List.mem_mergeSort.mpr ?_, rfl⟩
    refine List.mem_filterMap.mpr ⟨j, mem_rippleJourneyIds j, ?_⟩
    rw [hreasons]
    rfl

theorem zeroSelectionJustified_selectionOf {p : Progress} :
    (selectionOf digests changeset p).zeroSelectionJustified = true ↔ p.effects = ∅ := by
  have hempty : (rippleJourneyIds.filterMap fun j =>
      (p.reasonsAfterFallback digests changeset j).map (selectedJourney p.fallback j)) = [] ↔
      ∀ j, .journey j ∉ p.effects ∧ .fallback ∉ p.effects := by
    rw [List.filterMap_eq_nil_iff]
    constructor
    · intro h j
      have hnone := h j (mem_rippleJourneyIds j)
      rw [Option.map_eq_none_iff] at hnone
      apply not_or.mp
      rw [← isSome_reasonsAfterFallback digests changeset, hnone]
      exact Bool.false_ne_true
    · intro h j _
      have hnot := not_or.mpr (h j)
      rw [← isSome_reasonsAfterFallback digests changeset] at hnot
      rw [Option.not_isSome_iff_eq_none.mp hnot]
      rfl
  simp only [selectionOf, Bool.and_eq_true, List.isEmpty_iff, hempty, decide_eq_true_eq,
    Bool.not_eq_true']
  constructor
  · rintro ⟨⟨hjourneys, hfallback⟩, hruntime⟩
    apply Set.eq_empty_of_forall_notMem
    rintro (j | - | -)
    · exact (hjourneys j).1
    · simp [hfallback]
    · simp [hruntime]
  · intro h
    refine ⟨⟨?_, ?_⟩, ?_⟩
    · intro j
      rw [h]
      exact ⟨Set.notMem_empty _, Set.notMem_empty _⟩
    · apply Bool.eq_false_iff.mpr
      intro hfallback
      exact Set.notMem_empty _ (h ▸ fallback_mem_effects.mpr hfallback)
    · apply Decidable.byContradiction
      intro hruntime
      exact Set.notMem_empty _ (h ▸ runtime_mem_effects.mpr hruntime)

variable (repos) in
theorem selectJourneys_ok (hvalid : validateChangeSet digests changeset = .ok ())
    (htarget : ∀ edge ∈ edges, expandTargets edge ≠ []) :
    ∃ p, selectJourneys digests changeset repos edges = .ok (selectionOf digests changeset p) ∧
      p.effects = gathered (fileEffects repos edges) changeset.changedFiles := by
  obtain ⟨p, hp, heffects⟩ :=
    visitFiles_effects digests repos htarget changeset.changedFiles Progress.start
  refine ⟨p, ?_, ?_⟩
  · rw [selectJourneys, hvalid]
    change (changeset.changedFiles.foldlM (visitFile digests repos edges) Progress.start >>= _) = _
    rw [hp]
    rfl
  · rw [heffects, effects_start]
    exact bot_sup_eq _

theorem validateChangeSet_of_selectJourneys
    (h : selectJourneys digests changeset repos edges = .ok result) :
    validateChangeSet digests changeset = .ok () := by
  cases hvalid : validateChangeSet digests changeset with
  | ok _ => rfl
  | error e =>
      rw [selectJourneys, hvalid] at h
      contradiction

theorem selects_iff (htarget : ∀ edge ∈ edges, expandTargets edge ≠ [])
    (h : selectJourneys digests changeset repos edges = .ok result) {j : JourneyId} :
    result.Selects j ↔ ∃ file ∈ changeset.changedFiles, CallsFor repos edges file j := by
  obtain ⟨p, hp, heffects⟩ := selectJourneys_ok repos
    (validateChangeSet_of_selectJourneys h) htarget
  obtain rfl : selectionOf digests changeset p = result := Except.ok.inj (hp.symm.trans h)
  rw [selects_selectionOf, heffects, mem_gathered, mem_gathered, ← exists_or]
  apply exists_congr
  intro file
  rw [← and_or_left]
  exact Iff.rfl

theorem zeroSelectionJustified_iff (htarget : ∀ edge ∈ edges, expandTargets edge ≠ [])
    (h : selectJourneys digests changeset repos edges = .ok result) :
    result.zeroSelectionJustified = true ↔
      ∀ file ∈ changeset.changedFiles, ¬CountsAsRuntime repos file := by
  obtain ⟨p, hp, heffects⟩ := selectJourneys_ok repos
    (validateChangeSet_of_selectJourneys h) htarget
  obtain rfl : selectionOf digests changeset p = result := Except.ok.inj (hp.symm.trans h)
  rw [zeroSelectionJustified_selectionOf, heffects]
  constructor
  · intro hempty file hfile hcounts
    have hmem : Effect.runtime ∈ gathered (fileEffects repos edges) changeset.changedFiles :=
      (mem_gathered _ _).mpr ⟨file, hfile, hcounts⟩
    rw [hempty] at hmem
    exact hmem
  · intro hnone
    apply Set.eq_empty_of_forall_notMem
    intro e he
    obtain ⟨file, hfile, hmem⟩ := (mem_gathered _ _).mp he
    rw [fileEffects_of_not_counts (hnone file hfile)] at hmem
    exact hmem

end Selections

end NightWatch.ChangeIntelligence
