import NightWatch.ChangeIntelligence.ImpactRuns

namespace NightWatch.ChangeIntelligence

open Lib.JsText

def ChangedFile.endpoints (file : ChangedFile) : List JsString :=
  file.path :: file.previousPath.toList

def nonRuntimePath (path : JsString) : Bool :=
  let path := canonicalPath path
  docRe path || testRe path || ciRe path

/-- The edge belongs to the repository of the file and matches the endpoint. -/
def Reaches (edge : DependencyEdge) (file : ChangedFile) (endpoint : JsString) : Prop :=
  edge.repoId = file.repoId ∧ matchesPath edge endpoint = true

section Endpoints

variable {edges : List DependencyEdge} {edge : DependencyEdge} {file : ChangedFile}

theorem edgeMatchesFile_iff :
    edgeMatchesFile edge file = true ↔ ∃ e ∈ file.endpoints, matchesPath edge e = true := by
  unfold edgeMatchesFile ChangedFile.endpoints
  cases file.previousPath with
  | none => simp
  | some previousPath => simp

theorem mem_fileEdges_iff :
    edge ∈ fileEdges edges file ↔ edge ∈ edges ∧ ∃ e ∈ file.endpoints, Reaches edge file e := by
  unfold fileEdges Reaches
  rw [List.mem_filter, Bool.and_eq_true, edgeMatchesFile_iff, decide_eq_true_eq]
  constructor
  · rintro ⟨hmem, hrepo, e, he, hmatch⟩
    exact ⟨hmem, e, he, hrepo, hmatch⟩
  · rintro ⟨hmem, e, he, hrepo, hmatch⟩
    exact ⟨hmem, hrepo, e, he, hmatch⟩

end Endpoints

/-- The journeys that a change has to bring in: the targets of the edges that reach one of
its runtime endpoints, and all where no edge matches it. -/
def Owed (edges : List DependencyEdge) (file : ChangedFile) (j : JourneyId) : Prop :=
  (∃ e ∈ file.endpoints, nonRuntimePath e = false ∧
    ∃ edge ∈ edges, Reaches edge file e ∧ j ∈ expandTargets edge) ∨
  ((∃ e ∈ file.endpoints, nonRuntimePath e = false) ∧
    ∀ edge ∈ edges, edge.repoId = file.repoId → edgeMatchesFile edge file = false)

variable (digests : Digests) (changeset : ChangeSet) (repos : List RepoDefinition)
  (edges : List DependencyEdge)

/-- The selection loses no runtime change, and neither more files nor another order of files or
edges take a journey away. -/
structure LosesNothing (result : SelectionResult) : Prop where
  selected : ∀ file ∈ changeset.changedFiles, InScope repos file.repoId →
    ∀ j, Owed edges file j → result.Selects j
  justified : result.zeroSelectionJustified = true → ∀ file ∈ changeset.changedFiles,
    (∀ e ∈ file.endpoints, nonRuntimePath e = true) ∨ Excluded repos file.repoId
  grows : ∀ changeset' result', selectJourneys digests changeset' repos edges = .ok result' →
    changeset.changedFiles ⊆ changeset'.changedFiles → ∀ j, result.Selects j → result'.Selects j
  ordered : ∀ changeset' edges' result',
    selectJourneys digests changeset' repos edges' = .ok result' →
    changeset'.changedFiles.Perm changeset.changedFiles → edges'.Perm edges →
      ∀ j, result'.Selects j ↔ result.Selects j

/-- The combined test calls the change documentation, test or metadata although one of its
endpoints is a runtime path. -/
def Overlooked (file : ChangedFile) : Prop :=
  nonRuntimeReason file.repoId file ≠ none ∧ ∃ e ∈ file.endpoints, nonRuntimePath e = false

/-- For every overlooked change, other files bring in what it owes, and where its repository
is not excluded some file counts as a runtime file. -/
def MadeUpFor : Prop :=
  ∀ file ∈ changeset.changedFiles, Overlooked file →
    (InScope repos file.repoId → ∀ j, Owed edges file j →
      ∃ other ∈ changeset.changedFiles, CallsFor repos edges other j) ∧
    (¬Excluded repos file.repoId → ∃ other ∈ changeset.changedFiles, CountsAsRuntime repos other)

section Coverage

variable {digests changeset repos edges} {file : ChangedFile} {j : JourneyId}

theorem exists_runtime_endpoint (h : Owed edges file j) :
    ∃ e ∈ file.endpoints, nonRuntimePath e = false := by
  rcases h with ⟨e, he, hruntime, -⟩ | ⟨h, -⟩
  · exact ⟨e, he, hruntime⟩
  · exact h

theorem callsFor_of_owed (hcounts : CountsAsRuntime repos file)
    (hscope : InScope repos file.repoId) (h : Owed edges file j) : CallsFor repos edges file j := by
  rcases h with ⟨e, he, -, edge, hedge, hreaches, hj⟩ | ⟨-, hnone⟩
  · left
    exact ⟨hcounts, hscope, edge, mem_fileEdges_iff.mpr ⟨hedge, e, he, hreaches⟩, hj⟩
  · right
    refine ⟨hcounts, fun _ => Or.inl ?_⟩
    apply List.eq_nil_iff_forall_not_mem.mpr
    intro edge hmem
    obtain ⟨hedge, e, he, hrepo, hmatch⟩ := mem_fileEdges_iff.mp hmem
    have hmatches := edgeMatchesFile_iff.mpr ⟨e, he, hmatch⟩
    rw [hnone edge hedge hrepo] at hmatches
    contradiction

variable {edges' : List DependencyEdge} {changeset' : ChangeSet} {result' : SelectionResult}

theorem CallsFor.perm (hperm : edges'.Perm edges)
    (h : CallsFor repos edges' file j) : CallsFor repos edges file j := by
  have hfound : (fileEdges edges' file).Perm (fileEdges edges file) := hperm.filter _
  rcases h with ⟨hcounts, hscope, edge, hedge, hj⟩ | ⟨hcounts, hfallback⟩
  · exact Or.inl ⟨hcounts, hscope, edge, hfound.mem_iff.mp hedge, hj⟩
  · refine Or.inr ⟨hcounts, fun hscope => ?_⟩
    rcases hfallback hscope with hnil | ⟨edge, hedge, hstale⟩
    · left
      rw [hnil] at hfound
      exact hfound.symm.eq_nil
    · exact Or.inr ⟨edge, hfound.mem_iff.mp hedge, hstale⟩

variable {result : SelectionResult}

section

variable (htarget : ∀ edge ∈ edges, expandTargets edge ≠ [])

include htarget

theorem Selects.mono (h : selectJourneys digests changeset repos edges = .ok result)
    (h' : selectJourneys digests changeset' repos edges = .ok result')
    (hfiles : changeset.changedFiles ⊆ changeset'.changedFiles) (hj : result.Selects j) :
    result'.Selects j := by
  obtain ⟨file, hfile, hcalls⟩ := (selects_iff htarget h).mp hj
  exact (selects_iff htarget h').mpr ⟨file, hfiles hfile, hcalls⟩

theorem selects_perm (h : selectJourneys digests changeset repos edges = .ok result)
    (h' : selectJourneys digests changeset' repos edges' = .ok result')
    (hfiles : changeset'.changedFiles.Perm changeset.changedFiles) (hedges : edges'.Perm edges) :
    result'.Selects j ↔ result.Selects j := by
  have htarget' : ∀ edge ∈ edges', expandTargets edge ≠ [] := by
    intro edge hedge
    exact htarget edge (hedges.mem_iff.mp hedge)
  rw [selects_iff htarget h, selects_iff htarget' h']
  constructor
  · rintro ⟨file, hfile, hcalls⟩
    exact ⟨file, hfiles.mem_iff.mp hfile, hcalls.perm hedges⟩
  · rintro ⟨file, hfile, hcalls⟩
    exact ⟨file, hfiles.mem_iff.mpr hfile, hcalls.perm hedges.symm⟩

theorem losesNothing_of_madeUpFor (h : selectJourneys digests changeset repos edges = .ok result)
    (hmade : MadeUpFor changeset repos edges) :
    LosesNothing digests changeset repos edges result where
  selected := by
    intro file hfile hscope j howed
    rw [selects_iff htarget h]
    by_cases hreason : nonRuntimeReason file.repoId file = none
    · have hcounts : CountsAsRuntime repos file := ⟨hreason, not_excluded_of_inScope hscope⟩
      exact ⟨file, hfile, callsFor_of_owed hcounts hscope howed⟩
    · exact (hmade file hfile ⟨hreason, exists_runtime_endpoint howed⟩).1 hscope j howed
  justified := by
    intro hzero file hfile
    rw [zeroSelectionJustified_iff htarget h] at hzero
    apply or_iff_not_imp_right.mpr
    intro hexcluded e he
    apply Bool.of_not_eq_false
    intro hruntime
    by_cases hreason : nonRuntimeReason file.repoId file = none
    · exact hzero file hfile ⟨hreason, hexcluded⟩
    · obtain ⟨other, hother, hcounts⟩ :=
        (hmade file hfile ⟨hreason, e, he, hruntime⟩).2 hexcluded
      exact hzero other hother hcounts
  grows := fun _ _ h' hfiles _ => Selects.mono htarget h h' hfiles
  ordered := fun _ _ _ h' hfiles hedges _ => selects_perm htarget h h' hfiles hedges

theorem madeUpFor_of_losesNothing (h : selectJourneys digests changeset repos edges = .ok result)
    (hloses : LosesNothing digests changeset repos edges result) :
    MadeUpFor changeset repos edges := by
  rintro file hfile ⟨-, e, he, hruntime⟩
  constructor
  · intro hscope j howed
    exact (selects_iff htarget h).mp (hloses.selected file hfile hscope j howed)
  · intro hexcluded
    apply Classical.byContradiction
    intro hnone
    have hzero : result.zeroSelectionJustified = true := by
      rw [zeroSelectionJustified_iff htarget h]
      intro other hother hcounts
      exact hnone ⟨other, hother, hcounts⟩
    rcases hloses.justified hzero file hfile with hall | hin
    · rw [hall e he] at hruntime
      contradiction
    · exact hexcluded hin

end

end Coverage

/-- A selection from a validated changeset loses no runtime change exactly where every
change that the combined test overlooks is made up for by other files. -/
theorem selection_losesNothing_iff (hvalid : validateChangeSet digests changeset = .ok ())
    (htarget : ∀ edge ∈ edges, expandTargets edge ≠ []) :
    ∃ result, selectJourneys digests changeset repos edges = .ok result ∧
      (LosesNothing digests changeset repos edges result ↔ MadeUpFor changeset repos edges) := by
  obtain ⟨p, hp, -⟩ := selectJourneys_ok repos hvalid htarget
  refine ⟨_, hp, ?_, ?_⟩
  · exact madeUpFor_of_losesNothing htarget hp
  · exact losesNothing_of_madeUpFor htarget hp

/-! ### A payer page that becomes documentation -/

def sampleDigests : Digests := ⟨fun _ => [], fun _ _ _ => []⟩

def sampleRepo : RepoDefinition :=
  ⟨"mobingilabs/ripple-ui".toList, .inScope, "d80b161b".toList, "d80b161b".toList⟩

def sampleEdge : DependencyEdge :=
  { edgeId := "j1-page".toList
    repoId := sampleRepo.repoId
    pathPattern := "src/payer/".toList
    edgeMatch := .pathPrefix
    journeyIds := .journeys [.ripplePayerExchangeRead]
    impactClass := .directJourneyChange
    reasonCode := .directComponent
    confidence := .high
    riskClasses := [.exchangeRate]
    priorityTier := .p1
    sourceMapSha := sampleRepo.sourceMapSha
    evidence := [] }

/-- `src/payer/rates.vue` moved to `docs/rates.vue`. -/
def movedToDocs : ChangeSet :=
  { selectorVersion := []
    changesetId := "cs-sample".toList
    repoBaselines := [⟨sampleRepo.repoId, [], []⟩]
    changedFiles := [⟨sampleRepo.repoId, "docs/rates.vue".toList,
      some "src/payer/rates.vue".toList, .rename⟩] }

theorem selection_losesNothing_iff_movedToDocs :
    ∃ result, selectJourneys sampleDigests movedToDocs [sampleRepo] [sampleEdge] = .ok result ∧
      (LosesNothing sampleDigests movedToDocs [sampleRepo] [sampleEdge] result ↔
        MadeUpFor movedToDocs [sampleRepo] [sampleEdge]) :=
  selection_losesNothing_iff sampleDigests movedToDocs [sampleRepo] [sampleEdge] rfl
    (by decide)

/-- The page's journey is not selected, and selecting nothing is called justified. -/
theorem movedToDocs_lost :
    ∃ result, selectJourneys sampleDigests movedToDocs [sampleRepo] [sampleEdge] = .ok result ∧
      ¬LosesNothing sampleDigests movedToDocs [sampleRepo] [sampleEdge] result := by
  have htarget : ∀ edge ∈ [sampleEdge], expandTargets edge ≠ [] := by decide
  have hvalid : validateChangeSet sampleDigests movedToDocs = .ok () := rfl
  obtain ⟨p, hp, -⟩ := selectJourneys_ok [sampleRepo] hvalid htarget
  refine ⟨_, hp, fun hloses => ?_⟩
  have hzero : (selectionOf sampleDigests movedToDocs p).zeroSelectionJustified = true := by
    rw [zeroSelectionJustified_iff htarget hp]
    rintro file hfile ⟨hreason, -⟩
    obtain rfl := List.mem_singleton.mp hfile
    revert hreason
    decide
  have hall := hloses.justified hzero _ (List.mem_singleton_self _)
  revert hall
  unfold Excluded
  decide

section Parts

variable {digests changeset repos edges} {first second : ChangeSet}
  {result result₁ result₂ : SelectionResult}

end Parts

end NightWatch.ChangeIntelligence
