import NightWatch.ChangeIntelligence.Types

/-!
`selectJourneys` of `changeIntelligence/selection.ts`: which journeys a changeset calls for,
by the dependency edges its runtime files match, with the fallback that selects every
journey.
-/

namespace NightWatch.ChangeIntelligence

open Lib.JsText

/-- A text as the `i` flag of a regular expression sees it. -/
def folded (s : JsString) : JsString := s.map Char.toLower

/-- `(^|\/)(…)(\/|$)` for the given words: a whole segment between slashes. -/
def hasSegment (words : List JsString) (s : JsString) : Bool :=
  (s.splitOn '/').any fun segment => folded segment ∈ words

/-- `\.(test|spec)\.[^.]+$`: the last three parts between dots. -/
def hasTestSuffix (s : JsString) : Bool :=
  match (s.splitOn '.').reverse with
  | extension :: word :: _ :: _ =>
      extension ≠ [] ∧ (folded word = "test".toList ∨ folded word = "spec".toList)
  | _ => false

/-- `DOC_RE`. -/
def docRe (s : JsString) : Bool :=
  hasSegment ["doc".toList, "docs".toList, "documentation".toList] s ||
    [".md".toList, ".mdx".toList, ".txt".toList, ".adoc".toList].any (endsWith (folded s))

/-- `TEST_RE`. -/
def testRe (s : JsString) : Bool :=
  hasSegment ["__tests__".toList, "test".toList, "tests".toList, "test-fixture".toList,
    "test-fixtures".toList, "fixtures".toList] s || hasTestSuffix s

/-- `CI_RE`. -/
def ciRe (s : JsString) : Bool := hasSegment [".github".toList, ".circleci".toList] s

/-- `path.replaceAll('\\', '/').replace(/^\.\//, '')`. -/
def canonicalPath (path : JsString) : JsString :=
  match path.map fun c => if c = '\\' then '/' else c with
  | '.' :: '/' :: rest => rest
  | s => s

/-- `matches`. -/
def matchesPath (edge : DependencyEdge) (changedPath : JsString) : Bool :=
  let path := canonicalPath changedPath
  let pattern := canonicalPath edge.pathPattern
  match edge.edgeMatch with
  | .exact => path = pattern
  | .pathPrefix => startsWith path pattern

def edgeMatchesFile (edge : DependencyEdge) (file : ChangedFile) : Bool :=
  matchesPath edge file.path ||
    match file.previousPath with
    | none => false
    | some previousPath => matchesPath edge previousPath

structure NonRuntimeReason where
  impactClass : ImpactClass
  explanation : String

/-- The documentation and test conventions are tried on both endpoints in one text, the metadata
convention on the new path alone. -/
def nonRuntimeReason (repoId : JsString) (file : ChangedFile) : Option NonRuntimeReason :=
  let path := canonicalPath file.path
  let previousPath := (file.previousPath.map canonicalPath).getD []
  let combined := if previousPath = [] then path else path ++ '\n' :: previousPath
  if docRe combined then
    some ⟨.docOnlyChange, "Path is documentation-only by the repository path convention."⟩
  else if testRe combined then
    some ⟨.testOnlyChange, "Path is test/fixture-only by the repository path convention."⟩
  else if ciRe path then
    some ⟨.testOnlyChange, "Path is CI metadata and is not runtime product source."⟩
  else if repoId = "alphauslabs/grpc-chunk-parser".toList ∧ path = "README.md".toList then
    some ⟨.docOnlyChange, "Parser README does not enter the published runtime."⟩
  else none

def isRuntimeChange (repo : Option RepoDefinition) (file : ChangedFile) : Bool :=
  match repo with
  | none => false
  | some repo => repo.scope = .inScope && (nonRuntimeReason repo.repoId file).isNone

/-- `new Map(repos.map((repo) => [repo.repoId, repo])).get(repoId)`. -/
def repoById (repos : List RepoDefinition) (repoId : JsString) : Option RepoDefinition :=
  repos.reverse.find? fun repo => repo.repoId = repoId

/-- `expandTargets`. -/
def expandTargets (edge : DependencyEdge) : List JourneyId :=
  match edge.journeyIds with
  | .all => rippleJourneyIds
  | .journeys ids => ids

/-- The digests that a selection takes: of a list of texts and nulls, and of the content of
a changeset. -/
structure Digests where
  ofTexts : List (Option JsString) → JsString
  ofContent : JsString → List RepoBaseline → List ChangedFile → JsString

variable (digests : Digests)

def JourneyId.text : JourneyId → JsString
  | .ripplePayerExchangeRead => "ripple-payer-exchange-read".toList
  | .rippleCommonExchangeRead => "ripple-common-exchange-read".toList
  | .rippleAccountInventory => "ripple-account-inventory".toList

def ChangeStatus.text : ChangeStatus → JsString
  | .add => "add".toList
  | .modify => "modify".toList
  | .delete => "delete".toList
  | .rename => "rename".toList

/-- `changesetId`. -/
def changesetId (changeset : ChangeSet) : JsString :=
  "cs-".toList ++ (digests.ofContent changeset.selectorVersion changeset.repoBaselines
    changeset.changedFiles).take 24

/-- `/^cs-[0-9a-f]{24}$/`. -/
def isCanonicalChangesetId (s : JsString) : Bool :=
  startsWith s "cs-".toList && s.length = 27 &&
    (s.drop 3).all fun c => c.isDigit || ('a' ≤ c && c ≤ 'f')

/-- The loop of `validateChangeSet` over the changed files. -/
def validateChangedFile (baselineRepos : List JsString) (file : ChangedFile) : Except String Unit :=
  if file.repoId ∉ baselineRepos then throw "CHANGESET_BASELINE_MISSING"
  else if file.status = .rename ∧ (file.previousPath = none ∨ file.previousPath = some []) then
    throw "CHANGESET_RENAME_ENDPOINT_MISSING"
  else if file.previousPath = some file.path then throw "CHANGESET_RENAME_SELF_REFERENTIAL"
  else pure ()

def validateChangeSet (changeset : ChangeSet) : Except String Unit :=
  if isCanonicalChangesetId changeset.changesetId ∧
      changesetId digests changeset ≠ changeset.changesetId then
    throw "CHANGESET_ID_MISMATCH"
  else
    changeset.changedFiles.forM
      (validateChangedFile (changeset.repoBaselines.map RepoBaseline.repoId))

/-- `reasonForEdge`. -/
def reasonForEdge (edge : DependencyEdge) (file : ChangedFile) (stale : Bool) :
    Except String ImpactReason :=
  match (expandTargets edge).head? with
  | none => throw ("dependency edge has no journey target: " ++ String.ofList edge.edgeId)
  | some journeyId =>
      pure
        { reasonId := (digests.ofTexts [edge.edgeId, journeyId.text, file.repoId, file.path,
            file.previousPath]).take 16
          journeyId
          repoId := file.repoId
          changedPath := file.path
          previousPath := file.previousPath.filter (· ≠ [])
          edgeId := some edge.edgeId
          impactClass := if stale then .unknownImpact else edge.impactClass
          reasonCode := if stale then .staleEdge else edge.reasonCode
          confidence := if stale then .unknown else edge.confidence
          riskClasses := if stale then [.networkApiTransport] else edge.riskClasses
          priorityTier := if stale then .p3 else edge.priorityTier
          explanation :=
            if stale then
              "Dependency edge ".toList ++ edge.edgeId ++ " was generated for ".toList ++
                edge.sourceMapSha ++ ", not the changeset source SHA.".toList
            else edge.evidence ++ "; changed ".toList ++ file.status.text ++ " path ".toList ++
              file.path ++ ".".toList
          evidence := edge.evidence }

def reasonForTarget (reason : ImpactReason) (journeyId : JourneyId) : ImpactReason :=
  if journeyId = reason.journeyId then reason
  else
    { reason with
      journeyId
      reasonId := (digests.ofTexts [reason.reasonId, journeyId.text]).take 16 }

def confidenceRank : Confidence → Nat
  | .high => 4
  | .medium => 3
  | .low => 2
  | .unknown => 1

def priorityRank : PriorityTier → Nat
  | .p0 => 0
  | .p1 => 1
  | .p2 => 2
  | .p3 => 3

def riskRank : RiskClass → Nat
  | .authPermissions => 10
  | .routing => 9
  | .protoContract => 9
  | .networkApiTransport => 9
  | .costFinancialSemantics => 8
  | .exchangeRate => 8
  | .accountInventory => 8
  | .sharedUiShell => 7
  | .errorHandling => 6
  | .resourceLoading => 6
  | .dataFetch => 5
  | .testDocOnly => 0

def strongestConfidence (reasons : List ImpactReason) : Confidence :=
  reasons.foldl (fun best current =>
    if confidenceRank current.confidence > confidenceRank best then current.confidence
    else best) .unknown

def highestPriority (reasons : List ImpactReason) : PriorityTier :=
  reasons.foldl (fun best current =>
    if priorityRank current.priorityTier < priorityRank best then current.priorityTier
    else best) .p3

def riskOrder : List RiskClass :=
  [.authPermissions, .networkApiTransport, .protoContract, .routing, .accountInventory,
    .costFinancialSemantics, .exchangeRate, .sharedUiShell, .errorHandling, .resourceLoading,
    .dataFetch, .testDocOnly]

/-- `riskClasses`: the classes of all reasons, each once, in that order. -/
def riskClasses (reasons : List ImpactReason) : List RiskClass :=
  riskOrder.filter fun risk => reasons.any fun reason => risk ∈ reason.riskClasses

/-- The variables of the loop of `selectJourneys`; `reasonsByJourney` is `none` where the
map has no entry. -/
structure Progress where
  reasonsByJourney : JourneyId → Option (List ImpactReason)
  unresolved : List UnresolvedImpact
  fallback : Bool
  fallbackReason : Option JsString
  runtimeFileCount : Nat
  nonRuntimeFileCount : Nat

def Progress.start : Progress := ⟨fun _ => none, [], false, none, 0, 0⟩

def Progress.addReason (reason : ImpactReason) (journeyId : JourneyId) (p : Progress) : Progress :=
  let bucket := (p.reasonsByJourney journeyId).getD []
  let bucket :=
    if bucket.any fun existing => existing.reasonId = reason.reasonId then bucket
    else bucket ++ [reason]
  { p with reasonsByJourney := fun j => if j = journeyId then some bucket
      else p.reasonsByJourney j }

/-- `fallback = true`, `fallbackReason ??= …` and the entry for the file. -/
def Progress.fallBack (file : ChangedFile) (reasonCode : ReasonCode) (reason : JsString)
    (p : Progress) : Progress :=
  let fallbackReason := p.fallbackReason.getD reason
  { p with
    fallback := true
    fallbackReason := some fallbackReason
    unresolved := p.unresolved ++ [⟨file.repoId, file.path, reasonCode, fallbackReason⟩] }

def isStale (repos : List RepoDefinition) (edge : DependencyEdge) : Bool :=
  match repoById repos edge.repoId with
  | none => true
  | some repo => repo.sourceMapSha ≠ edge.sourceMapSha || repo.checkedOutSha ≠ repo.sourceMapSha

/-- The loop of `selectJourneys` over the edges of one file. -/
def visitEdge (repos : List RepoDefinition) (file : ChangedFile) (p : Progress)
    (edge : DependencyEdge) : Except String Progress := do
  let stale := isStale repos edge
  let p := if stale then
      p.fallBack file .staleEdge ("Dependency map is stale for ".toList ++ edge.repoId ++ ['.'])
    else p
  let baseReason ← reasonForEdge digests edge file stale
  return (expandTargets edge).foldl
    (fun p journeyId => p.addReason (reasonForTarget digests baseReason journeyId) journeyId) p

def fileEdges (edges : List DependencyEdge) (file : ChangedFile) : List DependencyEdge :=
  edges.filter fun edge => edge.repoId = file.repoId && edgeMatchesFile edge file

/-- The loop of `selectJourneys` over the changed files. -/
def visitFile (repos : List RepoDefinition) (edges : List DependencyEdge) (p : Progress)
    (file : ChangedFile) : Except String Progress :=
  let repo := repoById repos file.repoId
  if (nonRuntimeReason file.repoId file).isSome then
    pure { p with nonRuntimeFileCount := p.nonRuntimeFileCount + 1 }
  else if !isRuntimeChange repo file then
    if repo.map RepoDefinition.scope = some .reviewedExcluded then
      pure { p with nonRuntimeFileCount := p.nonRuntimeFileCount + 1 }
    else
      pure (({ p with runtimeFileCount := p.runtimeFileCount + 1 } : Progress).fallBack file
        .unknownFallback ("Runtime change in ".toList ++ file.repoId ++
          " is outside the reviewed dependency map.".toList))
  else
    let p := { p with runtimeFileCount := p.runtimeFileCount + 1 }
    match fileEdges edges file with
    | [] =>
        pure (p.fallBack file .unknownFallback ("Runtime path ".toList ++ file.repoId ++
          ':' :: file.path ++ " has no proven dependency edge.".toList))
    | fileEdges => fileEdges.foldlM (visitEdge digests repos file) p

def fallbackImpact (changeset : ChangeSet) (p : Progress) (journeyId : JourneyId) : ImpactReason :=
  { reasonId := (digests.ofTexts ["fallback".toList, changeset.changesetId,
      journeyId.text]).take 16
    journeyId
    repoId := (p.unresolved.head?.map UnresolvedImpact.repoId).getD "unknown".toList
    changedPath := (p.unresolved.head?.map UnresolvedImpact.path).getD "unknown".toList
    previousPath := none
    edgeId := none
    impactClass := .unknownImpact
    reasonCode := .unknownFallback
    confidence := .unknown
    riskClasses := [.networkApiTransport]
    priorityTier := .p3
    explanation := ("Relevant impact could not be mapped confidently; conservative fallback " ++
      "includes this existing canary.").toList
    evidence := "Phase 3 fail-safe selection policy".toList }

/-- The map of reasons after `if (fallback) { … }`. -/
def Progress.reasonsAfterFallback (changeset : ChangeSet) (p : Progress)
    (journeyId : JourneyId) : Option (List ImpactReason) :=
  match p.reasonsByJourney journeyId with
  | some reasons => some reasons
  | none => if p.fallback then some [fallbackImpact digests changeset p journeyId] else none

def selectedJourney (fallback : Bool) (journeyId : JourneyId) (reasons : List ImpactReason) :
    SelectedJourney :=
  { journeyId
    priorityTier := if fallback then .p3 else highestPriority reasons
    confidence := if fallback then .unknown else strongestConfidence reasons
    riskClasses := riskClasses reasons
    reasons }

/-- The order of the selected journeys; the sort keeps that of equals, which is
`RIPPLE_JOURNEY_IDS`. -/
def selectedBefore (fallback : Bool) (a b : SelectedJourney) : Bool :=
  let rank (s : SelectedJourney) := riskRank (s.riskClasses.head?.getD .testDocOnly)
  if priorityRank a.priorityTier ≠ priorityRank b.priorityTier then
    priorityRank a.priorityTier < priorityRank b.priorityTier
  else fallback || rank b ≤ rank a

/-- `makeNonSelection`. -/
def makeNonSelection (journeyId : JourneyId) (reasons : List ImpactReason)
    (changeset : ChangeSet) (fallback : Bool) (runtimeFileCount : Nat) : NonSelectedJourney :=
  if fallback then
    ⟨journeyId, "Conservative fallback selected all existing canaries.", .unknownFallback⟩
  else if reasons ≠ [] then
    ⟨journeyId, "No source-backed edge or unresolved runtime change targeted this journey.",
      .reviewedNotDependency⟩
  else
    { journeyId
      reason :=
        if changeset.changedFiles = [] then
          "No committed files changed in the explicit range."
        else if runtimeFileCount > 0 then
          "No source-backed edge or unresolved runtime change targeted this journey."
        else "All changed files were proven non-runtime documentation/test/CI files."
      reasonCode := if changeset.changedFiles = [] ∨ runtimeFileCount = 0 then .nonRuntimeOnly
        else .reviewedNotDependency }

/-- What `selectJourneys` makes of the variables of its loop. -/
def selectionOf (changeset : ChangeSet) (p : Progress) : SelectionResult :=
  let reasonsOf := p.reasonsAfterFallback digests changeset
  let selected := rippleJourneyIds.filterMap fun journeyId =>
    (reasonsOf journeyId).map (selectedJourney p.fallback journeyId)
  let nonSelected := rippleJourneyIds.filter fun journeyId => (reasonsOf journeyId).isNone
  { changesetId := changeset.changesetId
    runtimeFileCount := p.runtimeFileCount
    nonRuntimeFileCount := p.nonRuntimeFileCount
    selectedJourneys := selected.mergeSort (selectedBefore p.fallback)
    nonSelectedJourneys := nonSelected.map fun journeyId =>
      makeNonSelection journeyId ((reasonsOf journeyId).getD []) changeset p.fallback
        p.runtimeFileCount
    fallbackTriggered := p.fallback
    fallbackReason := p.fallbackReason
    zeroSelectionJustified := selected.isEmpty && !p.fallback && p.runtimeFileCount = 0
    unresolvedImpact := p.unresolved }

/-- `selectJourneys`. -/
def selectJourneys (changeset : ChangeSet) (repos : List RepoDefinition)
    (edges : List DependencyEdge) : Except String SelectionResult := do
  validateChangeSet digests changeset
  let p ← changeset.changedFiles.foldlM (visitFile digests repos edges) Progress.start
  return selectionOf digests changeset p

end NightWatch.ChangeIntelligence
