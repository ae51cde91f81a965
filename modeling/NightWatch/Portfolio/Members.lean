import NightWatch.Lib.JsText

namespace NightWatch.Portfolio.Members

open Lib.JsText

inductive PortfolioMemberKind where
  | journey
  | api
  | exploration
  deriving DecidableEq

inductive PortfolioCostClass where
  | low
  | medium
  | high

inductive LocalReadinessCurrentness where
  | current
  | stale
  | sourceUnavailable
  | notEvaluated
  deriving DecidableEq

inductive DepthClass where
  | shape
  | type
  | collection
  | none
  | shapeCollection
  | typeCollection
  deriving DecidableEq

structure PortfolioYieldCounters where
  admittedCount : Nat
  reproducedCount : Nat
  minimizedCount : Nat
  distinctClusterCount : Nat
  dossierReadyCount : Nat
  duplicateMerges : Nat
  invalidOrTransient : Nat
  executionsTotal : Nat

structure PortfolioMemberInput where
  targetId : JsString
  journeyId : Option JsString
  kind : PortfolioMemberKind
  semanticScope : JsString
  currentness : LocalReadinessCurrentness
  sourceSha : Option JsString
  evidenceDigest : Option JsString
  derivationVersion : Option JsString
  contractVersion : Option JsString
  depthClass : DepthClass
  replayable : Bool
  executionCostClass : PortfolioCostClass
  starvationAgeBuckets : Nat
  historicalYield : PortfolioYieldCounters
  ownerBlockedOperations : List JsString
  phaseFrozen : Bool

structure PortfolioMember where
  memberId : JsString
  input : PortfolioMemberInput
  duplicatePressure : Nat

inductive PortfolioBlockReason where
  | phaseFrozen
  | ownerPolicyBlocked
  | sourceUnavailable
  | currentnessStale
  | evidenceNotEvaluated
  | evidenceMissing
  deriving DecidableEq

def portfolioEligibility (member : PortfolioMember) : Option PortfolioBlockReason :=
  let input := member.input
  if input.phaseFrozen then some .phaseFrozen
  else if input.ownerBlockedOperations ≠ [] then some .ownerPolicyBlocked
  else if input.currentness = .sourceUnavailable then some .sourceUnavailable
  else if input.currentness = .stale then some .currentnessStale
  else if input.currentness = .notEvaluated then some .evidenceNotEvaluated
  else if input.depthClass ≠ .none && (input.evidenceDigest.isNone ||
      input.derivationVersion.isNone || input.contractVersion.isNone) then some .evidenceMissing
  else none

/-- What the gate asks of an eligible member. -/
structure Eligible (input : PortfolioMemberInput) : Prop where
  notFrozen : input.phaseFrozen = false
  notBlocked : input.ownerBlockedOperations = []
  current : input.currentness = .current
  evidence : input.depthClass ≠ .none → input.evidenceDigest.isSome = true ∧
    input.derivationVersion.isSome = true ∧ input.contractVersion.isSome = true

variable {member : PortfolioMember}

theorem portfolioEligibility_eq_none :
    portfolioEligibility member = none ↔ Eligible member.input := by
  constructor
  · intro h
    simp only [portfolioEligibility] at h
    split at h
    · contradiction
    split at h
    · contradiction
    split at h
    · contradiction
    split at h
    · contradiction
    split at h
    · contradiction
    split at h
    · contradiction
    rename_i hfrozen hblocked hunavailable hstale hevaluated hevidence
    constructor
    · simpa using hfrozen
    · simpa using hblocked
    · cases hcurrent : member.input.currentness with
      | current => rfl
      | stale => exact absurd hcurrent hstale
      | sourceUnavailable => exact absurd hcurrent hunavailable
      | notEvaluated => exact absurd hcurrent hevaluated
    · intro hdepth
      simp only [ne_eq, hdepth, not_false_eq_true, decide_true, Bool.true_and, Bool.or_eq_true,
        Option.isNone_iff_eq_none, not_or] at hevidence
      simpa only [Option.isSome_iff_ne_none, ne_eq, and_assoc] using hevidence
  · rintro ⟨hfrozen, hblocked, hcurrent, hevidence⟩
    simp only [portfolioEligibility, hfrozen, hblocked, hcurrent]
    by_cases hdepth : member.input.depthClass = .none
    · simp [hdepth]
    · obtain ⟨hdigest, hderivation, hcontract⟩ := hevidence hdepth
      simp [Option.isSome_iff_ne_none.mp hdigest, Option.isSome_iff_ne_none.mp hderivation,
        Option.isSome_iff_ne_none.mp hcontract]

inductive PortfolioMovementClass where
  | noMovement
  | shaOnlyNoEvidenceChange
  | evidenceLost
  | evidenceChanged
  | derivationChanged
  | contractChanged
  deriving DecidableEq

structure PortfolioPreviousProvenance where
  sourceSha : Option JsString
  evidenceDigest : Option JsString
  derivationVersion : Option JsString
  contractVersion : Option JsString

def PortfolioMemberInput.provenance (input : PortfolioMemberInput) : PortfolioPreviousProvenance :=
  ⟨input.sourceSha, input.evidenceDigest, input.derivationVersion, input.contractVersion⟩

def classifyPortfolioSourceMovement (current : PortfolioMemberInput)
    (previous : PortfolioPreviousProvenance) : PortfolioMovementClass :=
  if current.contractVersion ≠ previous.contractVersion then .contractChanged
  else if current.derivationVersion ≠ previous.derivationVersion then .derivationChanged
  else if current.evidenceDigest ≠ previous.evidenceDigest then
    if current.evidenceDigest = none then .evidenceLost else .evidenceChanged
  else if current.sourceSha ≠ previous.sourceSha then .shaOnlyNoEvidenceChange
  else .noMovement

def movementValue : PortfolioMovementClass → Nat
  | .noMovement | .shaOnlyNoEvidenceChange | .evidenceLost => 0
  | .evidenceChanged => 2
  | .derivationChanged => 3
  | .contractChanged => 4

def depthValue : DepthClass → Nat
  | .none => 0
  | .shape | .collection => 1
  | .shapeCollection | .type => 2
  | .typeCollection => 3

def coverageGapValue : DepthClass → Nat
  | .none => 3
  | .shape => 2
  | .collection | .shapeCollection | .type => 1
  | .typeCollection => 0

def priorYieldValue (distinctClusterCount : Nat) : Nat :=
  if distinctClusterCount = 0 then 0
  else if distinctClusterCount ≤ 2 then 1
  else if distinctClusterCount ≤ 5 then 2
  else 3

def starvationValue (buckets : Nat) : Nat := min 4 (buckets / 2)

def duplicatePenalty (duplicatePressure : Nat) : Nat :=
  match duplicatePressure with
  | 0 => 0
  | 1 => 6
  | 2 => 11
  | 3 => 15
  | _ => 18

def invalidHistoryPenalty (input : PortfolioMemberInput) : Nat :=
  let yields := input.historicalYield
  if yields.admittedCount = 0 then 0
  else if 500 ≤ yields.invalidOrTransient * 1000 / yields.admittedCount then 8
  else if 200 ≤ yields.invalidOrTransient * 1000 / yields.admittedCount then 4
  else 0

def executionCostPenalty : PortfolioCostClass → Nat
  | .high => 8
  | .medium => 4
  | .low => 0

def scoreComponents (member : PortfolioMember) (movementClass : PortfolioMovementClass) : List ℚ :=
  let input := member.input
  [movementValue movementClass * 5, depthValue input.depthClass * 5,
    coverageGapValue input.depthClass * 4,
    priorYieldValue input.historicalYield.distinctClusterCount * 4,
    if input.replayable then 6 else 0, starvationValue input.starvationAgeBuckets * (5 / 2),
    -duplicatePenalty member.duplicatePressure, -invalidHistoryPenalty input,
    -executionCostPenalty input.executionCostClass]

def movementClassOf (member : PortfolioMember) :
    Option PortfolioPreviousProvenance → PortfolioMovementClass
  | none => .noMovement
  | some previous => classifyPortfolioSourceMovement member.input previous

/-- The `total` of `scorePortfolioMember`: the rounded sum of the contributions. -/
def scoreTotal (member : PortfolioMember) (previous : Option PortfolioPreviousProvenance) : ℤ :=
  ⌊(scoreComponents member (movementClassOf member previous)).sum + 1 / 2⌋

theorem scoreTotal_congr {previous previous' : Option PortfolioPreviousProvenance}
    (h : movementValue (movementClassOf member previous) =
      movementValue (movementClassOf member previous')) :
    scoreTotal member previous = scoreTotal member previous' := by
  simp only [scoreTotal, scoreComponents, h]

end NightWatch.Portfolio.Members
