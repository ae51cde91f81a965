import NightWatch.Lib.Guard
import NightWatch.Lib.JsRuntime
import NightWatch.Portfolio.Members

/-!
The portfolio container and the bounded allocation of execution units to its members:
a pass of starvation floors, then a pass that fills by priority.
-/

namespace NightWatch.Portfolio.Allocation

open Lib.JsText Lib.JsData Lib.JsRuntime Lib.Guard Portfolio.Members

section Portfolio

inductive PortfolioError where
  | emptyApprovedTargets
  | sentinelRejected
  | duplicateApprovedTargets
  | fieldInvalid
  | unauthorizedTarget
  | duplicateMemberId

structure CampaignPortfolio where
  approvedTargets : List JsString
  members : List PortfolioMember
  portfolioDigest : JsString

def starvationMaxBuckets : Nat := 8

def yieldCounterMax : Nat := 100000

def isLowerOrDigit (c : Char) : Bool := c.isDigit || ('a' ≤ c && c ≤ 'z')

/-- Lower-case letters, digits and `._:-` or slashes, at most 128, the first no sign. -/
def isSemanticScope : JsString → Bool
  | [] => false
  | first :: rest =>
      isLowerOrDigit first && rest.length ≤ 127 &&
        rest.all fun c => isLowerOrDigit c || c ∈ "._:-/".toList

/-- `/^ev:sha256:[0-9a-f]{24}$/`. -/
def isEvidenceDigest (s : JsString) : Bool :=
  startsWith s "ev:sha256:".toList && (s.drop 10).length = 24 &&
    (s.drop 10).all fun c => c.isDigit || ('a' ≤ c && c ≤ 'f')

/-- `/^[A-Z][A-Z0-9_]{0,127}$/`. -/
def isBlockerCode : JsString → Bool
  | [] => false
  | first :: rest =>
      first.isUpper && rest.length ≤ 127 && rest.all fun c => c.isUpper || c.isDigit || c = '_'

def PortfolioYieldCounters.all (y : PortfolioYieldCounters) : List Nat :=
  [y.admittedCount, y.reproducedCount, y.minimizedCount, y.distinctClusterCount,
    y.dossierReadyCount, y.duplicateMerges, y.invalidOrTransient, y.executionsTotal]

-- The screen of sensitive texts, the host and the campaign digest are the surroundings'.
variable (rt : Runtime) (portfolioTextSafe : JsString → Bool) (campaignDigest : JsValue → JsString)

def PortfolioMemberInput.texts (input : PortfolioMemberInput) : List JsString :=
  [input.targetId] ++ input.journeyId.toList ++ [input.semanticScope] ++ input.sourceSha.toList ++
    input.evidenceDigest.toList ++ input.derivationVersion.toList ++
    input.contractVersion.toList ++ input.ownerBlockedOperations

def validatePortfolioMemberInput (input : PortfolioMemberInput) : Except PortfolioError Unit :=
  if !(PortfolioMemberInput.texts input).all portfolioTextSafe then .error .sentinelRejected
  else if isSemanticScope input.semanticScope &&
      input.evidenceDigest.all isEvidenceDigest &&
      input.starvationAgeBuckets ≤ starvationMaxBuckets &&
      (PortfolioYieldCounters.all input.historicalYield).all (· ≤ yieldCounterMax) &&
      input.ownerBlockedOperations.all isBlockerCode then .ok ()
  else .error .fieldInvalid

def textOrNull : Option JsString → JsValue
  | some s => .str s
  | none => .null

def kindName : PortfolioMemberKind → JsString
  | .journey => "JOURNEY".toList
  | .api => "API".toList
  | .exploration => "EXPLORATION".toList

def portfolioMemberId (input : PortfolioMemberInput) : JsString :=
  "pm:sha256:".toList ++ (campaignDigest (.obj [
    ("identityVersion".toList, .str "nightwatch.campaign-portfolio.private.v1".toList),
    ("targetId".toList, .str input.targetId),
    ("journeyId".toList, textOrNull input.journeyId),
    ("kind".toList, .str (kindName input.kind)),
    ("semanticScope".toList, .str input.semanticScope)])).take 24

def memberOf (inputs : List PortfolioMemberInput) (input : PortfolioMemberInput) :
    PortfolioMember :=
  ⟨portfolioMemberId campaignDigest input, input,
    inputs.countP (fun other => other.semanticScope = input.semanticScope) - 1⟩

def sortedById (members : List PortfolioMember) : List PortfolioMember :=
  members.insertionSort fun left right => rt.localeLe left.memberId right.memberId = true

def localeSorted (texts : List JsString) : List JsString :=
  texts.insertionSort fun left right => rt.localeLe left right = true

def currentnessName : LocalReadinessCurrentness → JsString
  | .current => "CURRENT".toList
  | .stale => "STALE".toList
  | .sourceUnavailable => "SOURCE_UNAVAILABLE".toList
  | .notEvaluated => "NOT_EVALUATED".toList

def depthName : DepthClass → JsString
  | .shape => "SHAPE".toList
  | .type => "TYPE".toList
  | .collection => "COLLECTION".toList
  | .none => "NONE".toList
  | .shapeCollection => "SHAPE_COLLECTION".toList
  | .typeCollection => "TYPE_COLLECTION".toList

def costName : PortfolioCostClass → JsString
  | .low => "LOW".toList
  | .medium => "MEDIUM".toList
  | .high => "HIGH".toList

def yieldNames : List String :=
  ["admittedCount", "reproducedCount", "minimizedCount", "distinctClusterCount",
    "dossierReadyCount", "duplicateMerges", "invalidOrTransient", "executionsTotal"]

def inputValue (input : PortfolioMemberInput) : JsValue :=
  .obj [("targetId".toList, .str input.targetId), ("journeyId".toList, textOrNull input.journeyId),
    ("kind".toList, .str (kindName input.kind)),
    ("semanticScope".toList, .str input.semanticScope),
    ("currentness".toList, .str (currentnessName input.currentness)),
    ("sourceSha".toList, textOrNull input.sourceSha),
    ("evidenceDigest".toList, textOrNull input.evidenceDigest),
    ("derivationVersion".toList, textOrNull input.derivationVersion),
    ("contractVersion".toList, textOrNull input.contractVersion),
    ("depthClass".toList, .str (depthName input.depthClass)),
    ("replayable".toList, .bool input.replayable),
    ("executionCostClass".toList, .str (costName input.executionCostClass)),
    ("starvationAgeBuckets".toList, .num (.ofNat input.starvationAgeBuckets)),
    ("historicalYield".toList, .obj (List.zipWith (fun name n => (name.toList, .num (.ofNat n)))
      yieldNames (PortfolioYieldCounters.all input.historicalYield))),
    ("ownerBlockedOperations".toList, .arr (input.ownerBlockedOperations.map .str)),
    ("phaseFrozen".toList, .bool input.phaseFrozen)]

def memberValue (member : PortfolioMember) : JsValue :=
  .obj [("memberId".toList, .str member.memberId), ("input".toList, inputValue member.input),
    ("duplicatePressure".toList, .num (.ofNat member.duplicatePressure))]

def checkMemberInput (approved : List JsString) (input : PortfolioMemberInput) :
    Except PortfolioError Unit := do
  validatePortfolioMemberInput portfolioTextSafe input
  if input.targetId ∈ approved then .ok () else .error .unauthorizedTarget

def buildPortfolio (approvedTargets : List JsString) (memberInputs : List PortfolioMemberInput) :
    Except PortfolioError CampaignPortfolio :=
  if approvedTargets = [] then .error .emptyApprovedTargets
  else if !approvedTargets.all portfolioTextSafe then .error .sentinelRejected
  else if ¬approvedTargets.Nodup then .error .duplicateApprovedTargets
  else
    match forEach (checkMemberInput portfolioTextSafe approvedTargets) memberInputs with
    | .error e => .error e
    | .ok () =>
        if (memberInputs.map (portfolioMemberId campaignDigest)).Nodup then
          let members := sortedById rt (memberInputs.map (memberOf campaignDigest memberInputs))
          let approved := localeSorted rt approvedTargets
          .ok ⟨approved, members, "pf:sha256:".toList ++ (campaignDigest (.obj [
            ("schemaVersion".toList, .str "nightwatch.campaign-portfolio.private.v1".toList),
            ("approvedTargets".toList, .arr (approved.map .str)),
            ("members".toList, .arr (members.map memberValue))])).take 24⟩
        else .error .duplicateMemberId

end Portfolio

structure PortfolioBudgetPolicy where
  policyVersion : JsString
  totalUnits : Nat
  perMemberCeiling : Nat
  floorUnits : Nat
  starvationThresholdBuckets : Nat
  retryCeilingPerMember : Nat
  reservedExplorationUnits : Nat

inductive AllocationError where
  | policyVersionInvalid
  | ceilingInvalid
  | floorExceedsCeiling
  | reserveExceedsTotal
  | contextWithoutOverride
  | contextInvalid
  | overrideUnknownMember
  | selectionReasonsInvalid
  | selectionReasonInvalid
  | invariantViolation

def portfolioAllocationVersion : JsString := "nightwatch.portfolio-allocation.v1".toList

def throwIf (condition : Prop) [Decidable condition] (e : AllocationError) :
    Except AllocationError Unit := if condition then .error e else .ok ()

theorem throwIf_eq_ok {condition : Prop} [Decidable condition] {e : AllocationError} :
    throwIf condition e = .ok () ↔ ¬condition := by
  by_cases h : condition <;> simp [throwIf, h]

def validatePortfolioBudgetPolicy (policy : PortfolioBudgetPolicy) : Except AllocationError Unit := do
  throwIf (policy.policyVersion ≠ portfolioAllocationVersion) .policyVersionInvalid
  throwIf (policy.perMemberCeiling < 1) .ceilingInvalid
  throwIf (policy.perMemberCeiling < policy.floorUnits) .floorExceedsCeiling
  throwIf (policy.totalUnits < policy.reservedExplorationUnits) .reserveExceedsTotal

structure PortfolioScoreOverride where
  score : ℤ
  selectionReasons : List JsString

structure ScoreOverlay where
  overrides : Option (List (JsString × PortfolioScoreOverride))
  selectionContextDigest : Option JsString

/-- `/^pci:sha256:[0-9a-f]{24}$/`. -/
def isContextDigest (s : JsString) : Bool :=
  startsWith s "pci:sha256:".toList && (s.drop 11).length = 24 &&
    (s.drop 11).all fun c => c.isDigit || ('a' ≤ c && c ≤ 'f')

/-- `/^[A-Z][A-Z0-9_:-]{0,79}$/`. -/
def isSelectionReason : JsString → Bool
  | [] => false
  | first :: rest =>
      first.isUpper && rest.length ≤ 79 &&
        rest.all fun c => c.isUpper || c.isDigit || c ∈ "_:-".toList

def checkOverride (portfolio : CampaignPortfolio) (entry : JsString × PortfolioScoreOverride) :
    Except AllocationError Unit := do
  throwIf (entry.1 ∉ portfolio.members.map PortfolioMember.memberId) .overrideUnknownMember
  throwIf (16 < entry.2.selectionReasons.length) .selectionReasonsInvalid
  throwIf (¬entry.2.selectionReasons.all isSelectionReason) .selectionReasonInvalid

def validateScoreOverrides (portfolio : CampaignPortfolio) (overlay : ScoreOverlay) :
    Except AllocationError Unit := do
  throwIf (overlay.selectionContextDigest.isSome ∧ overlay.overrides = none) .contextWithoutOverride
  throwIf (¬overlay.selectionContextDigest.all isContextDigest) .contextInvalid
  forEach (checkOverride portfolio) (overlay.overrides.getD [])

instance (overlay : ScoreOverlay) : Decidable (overlay.overrides = none) :=
  decidable_of_iff (overlay.overrides.isNone = true) Option.isNone_iff_eq_none

section Ranking

structure RankedCandidate where
  memberId : JsString
  targetId : JsString
  kind : PortfolioMemberKind
  score : ℤ
  starvationEligible : Bool
  selectionReasons : Option (List JsString)

structure AllocationInput where
  policy : PortfolioBudgetPolicy
  previousProvenance : JsString → Option PortfolioPreviousProvenance
  overlay : ScoreOverlay

variable (rt : Runtime) (input : AllocationInput)

def overrideOf (memberId : JsString) : Option PortfolioScoreOverride :=
  (input.overlay.overrides.getD []).lookup memberId

def candidateOf (member : PortfolioMember) : RankedCandidate where
  memberId := member.memberId
  targetId := member.input.targetId
  kind := member.input.kind
  score := match overrideOf input member.memberId with
    | some override => override.score
    | none => scoreTotal member (input.previousProvenance member.memberId)
  starvationEligible := input.policy.starvationThresholdBuckets ≤ member.input.starvationAgeBuckets
  selectionReasons := (overrideOf input member.memberId).map PortfolioScoreOverride.selectionReasons

def ranksBefore (left right : RankedCandidate) : Prop :=
  if left.score = right.score then rt.localeLe left.memberId right.memberId = true
  else right.score < left.score

instance : DecidableRel (ranksBefore rt) := fun left right =>
  inferInstanceAs (Decidable (if left.score = right.score then _ else _))

def rankedCandidates (portfolio : CampaignPortfolio) : List RankedCandidate :=
  ((portfolio.members.filter fun member => (portfolioEligibility member).isNone).map
    (candidateOf input)).insertionSort (ranksBefore rt)

structure PortfolioZeroBudgetEntry where
  memberId : JsString
  targetId : JsString
  reasonCode : PortfolioBlockReason

def zeroBudgetOf (member : PortfolioMember) : Option PortfolioZeroBudgetEntry :=
  (portfolioEligibility member).map fun reason => ⟨member.memberId, member.input.targetId, reason⟩

end Ranking

section Passes

structure Grants where
  units : JsString → Nat
  floorApplied : List JsString
  totalAllocated : Nat
  nonExplorationAllocated : Nat
  reserveUsed : Nat

def noGrants : Grants := ⟨fun _ => 0, [], 0, 0, 0⟩

variable (policy : PortfolioBudgetPolicy)

def available (g : Grants) (kind : PortfolioMemberKind) : Nat :=
  if kind = .exploration then policy.totalUnits - g.totalAllocated
  else min (policy.totalUnits - g.totalAllocated)
    (policy.totalUnits - policy.reservedExplorationUnits - g.nonExplorationAllocated)

def headroomFor (g : Grants) (candidate : RankedCandidate) : Nat :=
  min (policy.perMemberCeiling - g.units candidate.memberId) (available policy g candidate.kind)

/-- `grant(candidate, units)`; a grant of nothing changes nothing. -/
def grant (g : Grants) (candidate : RankedCandidate) (units : Nat) : Grants :=
  { g with
    units := Function.update g.units candidate.memberId (g.units candidate.memberId + units)
    totalAllocated := g.totalAllocated + units
    nonExplorationAllocated :=
      if candidate.kind = .exploration then g.nonExplorationAllocated
      else g.nonExplorationAllocated + units
    reserveUsed :=
      if candidate.kind = .exploration then
        g.reserveUsed + min units (policy.reservedExplorationUnits - g.reserveUsed)
      else g.reserveUsed }

def floorStep (g : Grants) (candidate : RankedCandidate) : Grants :=
  if !candidate.starvationEligible || policy.floorUnits = 0 then g
  else
    let grantable := min (headroomFor policy g candidate) policy.floorUnits
    if 0 < grantable then
      { grant policy g candidate grantable with
        floorApplied := g.floorApplied ++ [candidate.memberId] }
    else g

def fillStep (g : Grants) (candidate : RankedCandidate) : Grants :=
  if headroomFor policy g candidate = 0 then g
  else grant policy g candidate (headroomFor policy g candidate)

def floors (ranked : List RankedCandidate) : Grants := ranked.foldl (floorStep policy) noGrants

def grants (ranked : List RankedCandidate) : Grants :=
  ranked.foldl (fillStep policy) (floors policy ranked)

end Passes

section Allocation

structure PortfolioAllocationEntry where
  memberId : JsString
  targetId : JsString
  kind : PortfolioMemberKind
  allocatedUnits : Nat
  executionOrder : Nat
  maxRetries : Nat
  starvationFloorApplied : Bool
  priorityScore : ℤ
  selectionReasons : Option (List JsString)

structure PortfolioAllocation where
  policy : PortfolioBudgetPolicy
  selected : List PortfolioAllocationEntry
  zeroBudget : List PortfolioZeroBudgetEntry
  unfundedEligibleMemberIds : List JsString
  allocatedUnits : Nat
  unallocatedUnits : Nat
  reservedExplorationUnused : Nat
  selectionContextDigest : Option JsString

variable (rt : Runtime)

def entryOf (policy : PortfolioBudgetPolicy) (g : Grants) (candidate : RankedCandidate)
    (index : Nat) : PortfolioAllocationEntry where
  memberId := candidate.memberId
  targetId := candidate.targetId
  kind := candidate.kind
  allocatedUnits := g.units candidate.memberId
  executionOrder := index
  maxRetries := policy.retryCeilingPerMember
  starvationFloorApplied := candidate.memberId ∈ g.floorApplied
  priorityScore := candidate.score
  selectionReasons := candidate.selectionReasons

def zeroBudgetEntries (portfolio : CampaignPortfolio) : List PortfolioZeroBudgetEntry :=
  (portfolio.members.filterMap zeroBudgetOf).insertionSort fun left right =>
    rt.localeLe left.memberId right.memberId = true

def allocationOf (input : AllocationInput) (portfolio : CampaignPortfolio) : PortfolioAllocation :=
  let ranked := rankedCandidates rt input portfolio
  let g := grants input.policy ranked
  { policy := input.policy
    selected := (ranked.filter fun c => 0 < g.units c.memberId).mapIdx
      fun index c => entryOf input.policy g c index
    zeroBudget := zeroBudgetEntries rt portfolio
    unfundedEligibleMemberIds := localeSorted rt
      ((ranked.filter fun c => g.units c.memberId = 0).map RankedCandidate.memberId)
    allocatedUnits := g.totalAllocated
    unallocatedUnits := input.policy.totalUnits - g.totalAllocated
    reservedExplorationUnused := input.policy.reservedExplorationUnits - g.reserveUsed
    selectionContextDigest := input.overlay.selectionContextDigest }

structure SelectedAudit where
  seen : List JsString
  sum : Nat
  blockedWithBudget : Nat
  ceilingViolations : Nat

def auditEntry (a : PortfolioAllocation) (audit : SelectedAudit) (entry : PortfolioAllocationEntry) :
    SelectedAudit :=
  if entry.memberId ∈ audit.seen then { audit with ceilingViolations := audit.ceilingViolations + 1 }
  else
    { seen := audit.seen ++ [entry.memberId]
      sum := audit.sum + entry.allocatedUnits
      blockedWithBudget := audit.blockedWithBudget +
        (if entry.memberId ∈ a.zeroBudget.map PortfolioZeroBudgetEntry.memberId then 1 else 0)
      ceilingViolations := audit.ceilingViolations +
        (if a.policy.perMemberCeiling < entry.allocatedUnits ∨ entry.allocatedUnits = 0 then 1
          else 0) }

def auditSelected (a : PortfolioAllocation) : SelectedAudit :=
  a.selected.foldl (auditEntry a) ⟨[], 0, 0, 0⟩

def appearances (a : PortfolioAllocation) (seen : List JsString) (memberId : JsString) : Nat :=
  (if memberId ∈ seen then 1 else 0) +
    (if memberId ∈ a.zeroBudget.map PortfolioZeroBudgetEntry.memberId then 1 else 0) +
    (if memberId ∈ a.unfundedEligibleMemberIds then 1 else 0)

def partitionViolations (a : PortfolioAllocation) (portfolio : CampaignPortfolio) : Nat :=
  let seen := (auditSelected a).seen
  portfolio.members.countP (fun member => appearances a seen member.memberId ≠ 1) +
    (if seen.length + (a.zeroBudget.map PortfolioZeroBudgetEntry.memberId).dedup.length +
        a.unfundedEligibleMemberIds.dedup.length ≠ portfolio.members.length then 1 else 0)

/-- The `clean` of `verifyAllocationInvariants`. -/
def verifyAllocationInvariants (a : PortfolioAllocation) (portfolio : CampaignPortfolio) : Bool :=
  let audit := auditSelected a
  audit.sum ≤ a.policy.totalUnits && audit.blockedWithBudget = 0 &&
    audit.ceilingViolations + partitionViolations a portfolio = 0

def allocatePortfolioBudget (input : AllocationInput) (portfolio : CampaignPortfolio) :
    Except AllocationError PortfolioAllocation := do
  validatePortfolioBudgetPolicy input.policy
  validateScoreOverrides portfolio input.overlay
  let allocation := allocationOf rt input portfolio
  if verifyAllocationInvariants allocation portfolio then .ok allocation
  else .error .invariantViolation

end Allocation

end NightWatch.Portfolio.Allocation
