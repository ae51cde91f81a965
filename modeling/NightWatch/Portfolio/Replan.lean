import NightWatch.Lib.JsRuntime
import NightWatch.Portfolio.Members

namespace NightWatch.Portfolio.Replan

open Lib.JsText Lib.JsData Lib.JsRuntime Portfolio.Members

section Classifier

inductive ReplanVerdict where
  | planReusable
  | reprioritize
  | invalidated
  deriving DecidableEq

inductive ProjectSnapshotDiffClassification where
  | unchanged
  | compatibleChange
  | semanticChange
  | authorityChange
  | incompatibleChange

structure CampaignPlanMember where
  memberId : JsString
  targetId : JsString

structure CampaignPlanManifest where
  manifestVersion : JsString
  selectedMembers : List CampaignPlanMember

def campaignPlanManifestVersion : JsString := "nightwatch.campaign-plan-manifest.v1".toList

structure ReplanRule where
  reason : JsString
  invalidate : Bool

def snapshotRule : ProjectSnapshotDiffClassification → Option ReplanRule
  | .authorityChange => some ⟨"SNAPSHOT_AUTHORITY_CHANGE".toList, true⟩
  | .incompatibleChange => some ⟨"SNAPSHOT_INCOMPATIBLE_CHANGE".toList, true⟩
  | .semanticChange => some ⟨"SNAPSHOT_SEMANTIC_CHANGE".toList, false⟩
  | .unchanged | .compatibleChange => none

def movementRule : PortfolioMovementClass → Option ReplanRule
  | .contractChanged => some ⟨"MEMBER_CONTRACT_CHANGED".toList, true⟩
  | .derivationChanged => some ⟨"MEMBER_DERIVATION_CHANGED".toList, true⟩
  | .evidenceChanged => some ⟨"MEMBER_EVIDENCE_CHANGED".toList, false⟩
  | .noMovement | .shaOnlyNoEvidenceChange | .evidenceLost => none

def currentnessRule : LocalReadinessCurrentness → Option ReplanRule
  | .stale => some ⟨"MEMBER_CURRENTNESS_STALE".toList, false⟩
  | .sourceUnavailable => some ⟨"MEMBER_CURRENTNESS_SOURCE_UNAVAILABLE".toList, false⟩
  | .notEvaluated => some ⟨"MEMBER_CURRENTNESS_NOT_EVALUATED".toList, false⟩
  | .current => none

/-- `set.add(value)`. -/
def addTo (values : List JsString) (value : JsString) : List JsString :=
  if value ∈ values then values else values ++ [value]

structure ReplanState where
  reasons : List JsString
  affected : List JsString
  invalidated : Bool
  reprioritized : Bool

def ReplanState.applyRule (st : ReplanState) (rule : ReplanRule) : ReplanState :=
  { st with
    reasons := addTo st.reasons rule.reason
    invalidated := st.invalidated || rule.invalidate
    reprioritized := st.reprioritized || !rule.invalidate }

def ReplanState.applySome (st : ReplanState) : Option ReplanRule → ReplanState
  | some rule => st.applyRule rule
  | none => st

structure ReplanInput where
  previousManifest : CampaignPlanManifest
  snapshotDiff : ProjectSnapshotDiffClassification
  memberMovements : List (JsString × PortfolioMovementClass)
  currentnessByTarget : JsString → Option LocalReadinessCurrentness

def checkCurrentness (input : ReplanInput) (st : ReplanState) (member : CampaignPlanMember) :
    ReplanState :=
  match (input.currentnessByTarget member.targetId).bind currentnessRule with
  | some rule => { st.applyRule rule with affected := addTo st.affected member.memberId }
  | none => st

def checkSelected (input : ReplanInput) (st : ReplanState) (member : CampaignPlanMember) :
    ReplanState :=
  match (input.memberMovements.lookup member.memberId).bind movementRule with
  | some rule =>
      let applied := { st.applyRule rule with affected := addTo st.affected member.memberId }
      if rule.invalidate then applied else checkCurrentness input applied member
  | none => checkCurrentness input st member

def checkUnselected (input : ReplanInput) (st : ReplanState)
    (entry : JsString × PortfolioMovementClass) : ReplanState :=
  match movementRule entry.2 with
  | some rule =>
      if input.previousManifest.selectedMembers.any fun member => member.memberId = entry.1 then st
      else st.applyRule { rule with invalidate := false }
  | none => st

def initialState : ReplanState := ⟨[], [], false, false⟩

def afterSelected (input : ReplanInput) : ReplanState :=
  input.previousManifest.selectedMembers.foldl (checkSelected input)
    (initialState.applySome (snapshotRule input.snapshotDiff))

def finalState (input : ReplanInput) : ReplanState :=
  let st := afterSelected input
  if !st.invalidated && !st.reprioritized then
    input.memberMovements.foldl (checkUnselected input) st
  else st

def verdictOf (st : ReplanState) : ReplanVerdict :=
  if st.invalidated then .invalidated
  else if st.reprioritized then .reprioritize
  else .planReusable

def verdictName : ReplanVerdict → JsString
  | .planReusable => "PLAN_REUSABLE".toList
  | .reprioritize => "REPRIORITIZE".toList
  | .invalidated => "INVALIDATED".toList

structure ReplanDecision where
  verdict : ReplanVerdict
  reasons : List JsString
  affectedSelectedMemberIds : List JsString
  rebuildRequired : Bool
  digest : JsString

variable (rt : Runtime) (portfolioDigestOf : JsValue → JsString)

def inLocaleOrder (texts : List JsString) : List JsString :=
  texts.insertionSort fun s t => rt.localeLe s t = true

def classifyPlanReplan (input : ReplanInput) : ReplanDecision :=
  let st := finalState input
  let verdict := verdictOf st
  let reasons := inLocaleOrder rt
    (if st.reasons = [] then ["NO_MATERIAL_EVIDENCE_CHANGE".toList] else st.reasons)
  let affected := inLocaleOrder rt st.affected
  let rebuildRequired := verdict ≠ .planReusable ||
    input.previousManifest.manifestVersion ≠ campaignPlanManifestVersion
  { verdict := verdict
    reasons := reasons
    affectedSelectedMemberIds := affected
    rebuildRequired := rebuildRequired
    digest := "preplan:sha256:".toList ++ (portfolioDigestOf (.obj [
      ("replanVersion".toList, .str "nightwatch.portfolio-replan.v1".toList),
      ("verdict".toList, .str (verdictName verdict)),
      ("reasons".toList, .arr (reasons.map .str)),
      ("affectedSelectedMemberIds".toList, .arr (affected.map .str)),
      ("rebuildRequired".toList, .bool rebuildRequired)])).drop "sha256:".length }

end Classifier

def ReplanState.quiet (st : ReplanState) : Bool := !st.invalidated && !st.reprioritized

@[simp] theorem quiet_applyRule (st : ReplanState) (rule : ReplanRule) :
    (st.applyRule rule).quiet = false := by
  simp only [ReplanState.quiet, ReplanState.applyRule]
  cases rule.invalidate <;> simp

@[simp] theorem quiet_affected (st : ReplanState) (affected : List JsString) :
    ({ st with affected := affected } : ReplanState).quiet = st.quiet := rfl

theorem quiet_checkCurrentness {input : ReplanInput} {st : ReplanState}
    {member : CampaignPlanMember} :
    (checkCurrentness input st member).quiet = true ↔ st.quiet = true ∧
      (input.currentnessByTarget member.targetId).bind currentnessRule = none := by
  rw [checkCurrentness]
  cases (input.currentnessByTarget member.targetId).bind currentnessRule with
  | none => simp
  | some rule => simp

theorem quiet_checkSelected {input : ReplanInput} {st : ReplanState} {member : CampaignPlanMember} :
    (checkSelected input st member).quiet = true ↔ st.quiet = true ∧
      (input.memberMovements.lookup member.memberId).bind movementRule = none ∧
      (input.currentnessByTarget member.targetId).bind currentnessRule = none := by
  rw [checkSelected]
  cases (input.memberMovements.lookup member.memberId).bind movementRule with
  | none => simp [quiet_checkCurrentness]
  | some rule =>
      by_cases hinvalidate : rule.invalidate = true
      · simp [hinvalidate]
      · simp [hinvalidate, quiet_checkCurrentness]

theorem quiet_checkUnselected {input : ReplanInput} {st : ReplanState}
    {entry : JsString × PortfolioMovementClass} :
    (checkUnselected input st entry).quiet = true ↔ st.quiet = true ∧ (movementRule entry.2 = none ∨
        ∃ member ∈ input.previousManifest.selectedMembers, member.memberId = entry.1) := by
  rw [checkUnselected]
  cases movementRule entry.2 with
  | none => simp
  | some rule =>
      by_cases hselected : ∃ member ∈ input.previousManifest.selectedMembers,
          member.memberId = entry.1
      · simp [hselected]
      · simp [hselected]

theorem quiet_foldl {α : Type} (step : ReplanState → α → ReplanState) {calm : α → Prop}
    (hstep : ∀ st x, (step st x).quiet = true ↔ st.quiet = true ∧ calm x) (xs : List α)
    (st : ReplanState) : (xs.foldl step st).quiet = true ↔ st.quiet = true ∧ ∀ x ∈ xs, calm x := by
  induction xs generalizing st with
  | nil => simp
  | cons x xs ih => rw [List.foldl_cons, ih, hstep, List.forall_mem_cons, and_assoc]

theorem quiet_applySome {st : ReplanState} {rule : Option ReplanRule} :
    (st.applySome rule).quiet = true ↔ st.quiet = true ∧ rule = none := by
  cases rule with
  | none => simp [ReplanState.applySome]
  | some rule => simp [ReplanState.applySome]

theorem verdictOf_eq_planReusable {st : ReplanState} :
    verdictOf st = .planReusable ↔ st.quiet = true := by
  rw [verdictOf, ReplanState.quiet]
  cases st.invalidated <;> cases st.reprioritized <;> simp

theorem finalState_quiet {input : ReplanInput} : (finalState input).quiet = true ↔
      snapshotRule input.snapshotDiff = none ∧ (∀ member ∈ input.previousManifest.selectedMembers,
        (input.memberMovements.lookup member.memberId).bind movementRule = none ∧
        (input.currentnessByTarget member.targetId).bind currentnessRule = none) ∧
      ∀ entry ∈ input.memberMovements, movementRule entry.2 = none ∨
        ∃ member ∈ input.previousManifest.selectedMembers, member.memberId = entry.1 := by
  have hselected : (afterSelected input).quiet = true ↔
      snapshotRule input.snapshotDiff = none ∧
      ∀ member ∈ input.previousManifest.selectedMembers,
        (input.memberMovements.lookup member.memberId).bind movementRule = none ∧
        (input.currentnessByTarget member.targetId).bind currentnessRule = none := by
    rw [afterSelected, quiet_foldl (checkSelected input) (fun st member => quiet_checkSelected),
      quiet_applySome]
    simp [ReplanState.quiet, initialState]
  rw [finalState]
  by_cases hquiet : (afterSelected input).quiet = true
  · have hflags : (!(afterSelected input).invalidated && !(afterSelected input).reprioritized) =
        true := hquiet
    rw [if_pos hflags, quiet_foldl (checkUnselected input) (fun st entry => quiet_checkUnselected),
      hselected, and_assoc]
  · have hflags : ¬(!(afterSelected input).invalidated && !(afterSelected input).reprioritized) =
        true := hquiet
    rw [if_neg hflags]
    constructor
    · intro h
      exact absurd h hquiet
    · rintro ⟨hsnapshot, hmembers, -⟩
      exact hselected.mpr ⟨hsnapshot, hmembers⟩

/-- The same input but for its source, its evidence and its currentness. -/
def Agrees (planned current : PortfolioMemberInput) : Prop :=
  current = { planned with
    sourceSha := current.sourceSha
    evidenceDigest := current.evidenceDigest
    derivationVersion := current.derivationVersion
    contractVersion := current.contractVersion
    currentness := current.currentness }

structure ObservedMember where
  planned : PortfolioMember
  current : PortfolioMemberInput
  agrees : Agrees planned.input current

def ObservedMember.now (member : ObservedMember) : PortfolioMember :=
  { member.planned with input := member.current }

def ObservedMember.movement (member : ObservedMember) : PortfolioMovementClass :=
  classifyPortfolioSourceMovement member.current member.planned.input.provenance

structure Replanning where
  members : List ObservedMember
  nodup : (members.map fun member => member.planned.memberId).Nodup
  manifestVersion : JsString
  selected : List ObservedMember
  selected_mem : ∀ member ∈ selected, member ∈ members
  eligible : ∀ member ∈ selected, portfolioEligibility member.planned = none
  snapshotDiff : ProjectSnapshotDiffClassification
  currentnessByTarget : JsString → Option LocalReadinessCurrentness
  currentness_read : ∀ member ∈ selected,
    currentnessByTarget member.planned.input.targetId = some member.current.currentness

def Replanning.input (r : Replanning) : ReplanInput where
  previousManifest := ⟨r.manifestVersion,
    r.selected.map fun member => ⟨member.planned.memberId, member.planned.input.targetId⟩⟩
  snapshotDiff := r.snapshotDiff
  memberMovements := r.members.map fun member => (member.planned.memberId, member.movement)
  currentnessByTarget := r.currentnessByTarget

/-- A reusable verdict executes no member that a fresh plan would block or rank otherwise. -/
def ReuseIsSound (rt : Runtime) (portfolioDigestOf : JsValue → JsString) (r : Replanning) : Prop :=
  (classifyPlanReplan rt portfolioDigestOf r.input).verdict = .planReusable →
    ∀ member ∈ r.selected, portfolioEligibility member.now = none ∧
      scoreTotal member.now (some member.planned.input.provenance) = scoreTotal member.now none

theorem lookup_movement {members : List ObservedMember}
    (hnodup : (members.map fun member => member.planned.memberId).Nodup) {member : ObservedMember}
    (hmem : member ∈ members) :
    (members.map fun member => (member.planned.memberId, member.movement)).lookup
      member.planned.memberId = some member.movement := by
  induction members with
  | nil => contradiction
  | cons first rest ih =>
      rw [List.map_cons, List.nodup_cons] at hnodup
      rw [List.map_cons, List.lookup_cons]
      rcases List.mem_cons.mp hmem with rfl | hrest
      · rw [beq_self_eq_true]
      · have hne : member.planned.memberId ≠ first.planned.memberId := fun heq =>
          hnodup.1 (heq ▸ List.mem_map_of_mem (f := fun m => m.planned.memberId) hrest)
        rw [beq_false_of_ne hne]
        exact ih hnodup.2 hrest

theorem planReusable_iff {rt : Runtime} {portfolioDigestOf : JsValue → JsString} {r : Replanning}
    (hsnapshot : snapshotRule r.snapshotDiff = none) :
    (classifyPlanReplan rt portfolioDigestOf r.input).verdict = .planReusable ↔
      (∀ member ∈ r.members, movementRule member.movement = none) ∧
        ∀ member ∈ r.selected, currentnessRule member.current.currentness = none := by
  have hverdict : (classifyPlanReplan rt portfolioDigestOf r.input).verdict =
      verdictOf (finalState r.input) := rfl
  rw [hverdict, verdictOf_eq_planReusable, finalState_quiet]
  have hlookup (member) (hmem : member ∈ r.selected) :
      r.input.memberMovements.lookup member.planned.memberId = some member.movement :=
    lookup_movement r.nodup (r.selected_mem member hmem)
  have hread (member) (hmem : member ∈ r.selected) :
      r.input.currentnessByTarget member.planned.input.targetId = some member.current.currentness :=
    r.currentness_read member hmem
  constructor
  · rintro ⟨-, hselected, hmovements⟩
    have hof (member) (hmem : member ∈ r.selected) :
        movementRule member.movement = none ∧ currentnessRule member.current.currentness = none := by
      have hmember := hselected ⟨member.planned.memberId, member.planned.input.targetId⟩
        (List.mem_map_of_mem hmem)
      rw [hlookup member hmem, hread member hmem] at hmember
      exact hmember
    refine ⟨fun member hmem => ?_, fun member hmem => (hof member hmem).2⟩
    rcases hmovements _ (List.mem_map_of_mem hmem) with hnone | ⟨entry, hentry, hid⟩
    · exact hnone
    · obtain ⟨chosen, hchosen, rfl⟩ := List.mem_map.mp hentry
      have hsame : chosen = member := List.inj_on_of_nodup_map r.nodup
        (r.selected_mem chosen hchosen) hmem hid
      exact hsame ▸ (hof chosen hchosen).1
  · rintro ⟨hmovements, hcurrent⟩
    refine ⟨hsnapshot, ?_, ?_⟩
    · intro entry hentry
      obtain ⟨member, hmem, rfl⟩ := List.mem_map.mp hentry
      rw [hlookup member hmem, hread member hmem]
      exact ⟨hmovements member (r.selected_mem member hmem), hcurrent member hmem⟩
    · intro entry hentry
      obtain ⟨member, hmem, rfl⟩ := List.mem_map.mp hentry
      exact .inl (hmovements member hmem)

theorem movementRule_eq_none {movement : PortfolioMovementClass} :
    movementRule movement = none ↔ movementValue movement = 0 := by
  cases movement <;> decide

theorem currentnessRule_eq_none {currentness : LocalReadinessCurrentness} :
    currentnessRule currentness = none ↔ currentness = .current := by
  cases currentness <;> decide

theorem movement_cases {member : ObservedMember} (h : movementRule member.movement = none) :
    member.current.contractVersion = member.planned.input.contractVersion ∧
      member.current.derivationVersion = member.planned.input.derivationVersion ∧
      ((member.movement = .evidenceLost ∧ member.current.evidenceDigest = none ∧
          member.planned.input.evidenceDigest ≠ none) ∨ (member.movement ≠ .evidenceLost ∧
          member.current.evidenceDigest = member.planned.input.evidenceDigest)) := by
  rw [ObservedMember.movement, classifyPortfolioSourceMovement] at *
  split at h
  · contradiction
  rename_i hcontract
  split at h
  · contradiction
  rename_i hderivation
  refine ⟨not_not.mp hcontract, not_not.mp hderivation, ?_⟩
  rw [if_neg hcontract, if_neg hderivation]
  split at h
  · rename_i hevidence
    split at h
    · rename_i hlost
      refine .inl ⟨by rw [if_pos hevidence, if_pos hlost], hlost, ?_⟩
      intro hnone
      exact hevidence (hlost.trans hnone.symm)
    · contradiction
  · rename_i hevidence
    refine .inr ⟨?_, not_not.mp hevidence⟩
    rw [if_neg hevidence]
    split <;> decide

theorem eligible_now_iff {member : ObservedMember}
    (hplanned : portfolioEligibility member.planned = none)
    (hmovement : movementRule member.movement = none)
    (hcurrent : member.current.currentness = .current) : portfolioEligibility member.now = none ↔
      (member.movement = .evidenceLost → member.planned.input.depthClass = .none) := by
  rw [portfolioEligibility_eq_none] at hplanned ⊢
  obtain ⟨hcontract, hderivation, hevidence⟩ := movement_cases hmovement
  have hagrees := member.agrees
  have hdepth : member.current.depthClass = member.planned.input.depthClass := by rw [hagrees]
  have hfrozen : member.current.phaseFrozen = member.planned.input.phaseFrozen := by rw [hagrees]
  have hblocked : member.current.ownerBlockedOperations =
      member.planned.input.ownerBlockedOperations := by rw [hagrees]
  constructor
  · intro hnow hlost
    by_contra hne
    have hdigest := (hnow.evidence (fun h => hne (hdepth ▸ h))).1
    rcases hevidence with ⟨-, hnone, -⟩ | ⟨hkept, -⟩
    · rw [show member.now.input.evidenceDigest = none from hnone] at hdigest
      contradiction
    · exact hkept hlost
  · intro hneeds
    constructor
    · exact hfrozen.trans hplanned.notFrozen
    · exact hblocked.trans hplanned.notBlocked
    · exact hcurrent
    · intro hne
      have hne' : member.planned.input.depthClass ≠ .none := fun h => hne (hdepth.trans h)
      obtain ⟨hdigest, hderived, hcontracted⟩ := hplanned.evidence hne'
      rcases hevidence with ⟨hlost, -, -⟩ | ⟨-, hsame⟩
      · exact absurd (hneeds hlost) hne'
      · exact ⟨(congrArg Option.isSome hsame).trans hdigest,
          (congrArg Option.isSome hderivation).trans hderived,
          (congrArg Option.isSome hcontract).trans hcontracted⟩

/-- Reuse is sound exactly when a rule applies somewhere, or every selected member whose
evidence was lost claims no semantic depth. -/
theorem reuseIsSound_iff (rt : Runtime) (portfolioDigestOf : JsValue → JsString) (r : Replanning)
    (hsnapshot : snapshotRule r.snapshotDiff = none) : ReuseIsSound rt portfolioDigestOf r ↔
      (∃ member ∈ r.members, movementRule member.movement ≠ none) ∨
      (∃ member ∈ r.selected, member.current.currentness ≠ .current) ∨
      ∀ member ∈ r.selected, member.movement = .evidenceLost →
        member.planned.input.depthClass = .none := by
  rw [ReuseIsSound, planReusable_iff hsnapshot]
  simp only [currentnessRule_eq_none]
  constructor
  · intro h
    by_contra hnone
    push Not at hnone
    obtain ⟨hmovements, hcurrent, member, hmem, hlost, hdepth⟩ := hnone
    have helig := (h ⟨hmovements, hcurrent⟩ member hmem).1
    exact hdepth ((eligible_now_iff (r.eligible member hmem)
      (hmovements member (r.selected_mem member hmem)) (hcurrent member hmem)).mp helig hlost)
  · rintro h ⟨hmovements, hcurrent⟩ member hmem
    have hrule := hmovements member (r.selected_mem member hmem)
    constructor
    · rw [eligible_now_iff (r.eligible member hmem) hrule (hcurrent member hmem)]
      rcases h with ⟨moved, hmoved, hne⟩ | ⟨degraded, hdegraded, hne⟩ | hneeds
      · exact absurd (hmovements moved hmoved) hne
      · exact absurd (hcurrent degraded hdegraded) hne
      · exact hneeds member hmem
    · apply scoreTotal_congr
      exact movementRule_eq_none.mp hrule

def plannedInput : PortfolioMemberInput :=
  { targetId := "rates".toList
    journeyId := none
    kind := .api
    semanticScope := "exchange-rate.read".toList
    currentness := .current
    sourceSha := some "a".toList
    evidenceDigest := some "ev:sha256:aaaaaaaaaaaaaaaaaaaaaaaa".toList
    derivationVersion := some "v1".toList
    contractVersion := some "v1".toList
    depthClass := .shape
    replayable := true
    executionCostClass := .low
    starvationAgeBuckets := 0
    historicalYield := ⟨0, 0, 0, 0, 0, 0, 0, 0⟩
    ownerBlockedOperations := []
    phaseFrozen := false }

def lostMember : ObservedMember :=
  ⟨⟨"pm:sha256:aaaaaaaaaaaaaaaaaaaaaaaa".toList, plannedInput, 0⟩,
    { plannedInput with evidenceDigest := none }, rfl⟩

def steadyMember : ObservedMember :=
  ⟨⟨"pm:sha256:aaaaaaaaaaaaaaaaaaaaaaaa".toList, plannedInput, 0⟩, plannedInput, rfl⟩

theorem nodup_single (member : ObservedMember) :
    ([member].map fun member => member.planned.memberId).Nodup := List.nodup_singleton _

def planOf (member : ObservedMember) (heligible : portfolioEligibility member.planned = none) :
    Replanning where
  members := [member]
  nodup := nodup_single member
  manifestVersion := campaignPlanManifestVersion
  selected := [member]
  selected_mem := fun _ h => h
  eligible := List.forall_mem_singleton.mpr heligible
  snapshotDiff := .unchanged
  currentnessByTarget := fun _ => some member.current.currentness
  currentness_read := List.forall_mem_singleton.mpr rfl

theorem lostMember_eligible : portfolioEligibility lostMember.planned = none := by decide

theorem steadyMember_eligible : portfolioEligibility steadyMember.planned = none := by decide

theorem steady_reuse_sound :
    ReuseIsSound plainRuntime (fun _ => []) (planOf steadyMember steadyMember_eligible) ↔
      (∃ member ∈ [steadyMember], movementRule member.movement ≠ none) ∨
      (∃ member ∈ [steadyMember], member.current.currentness ≠ .current) ∨
      ∀ member ∈ [steadyMember], member.movement = .evidenceLost →
        member.planned.input.depthClass = .none :=
  reuseIsSound_iff plainRuntime (fun _ => []) (planOf steadyMember steadyMember_eligible) rfl

/-- The lost evidence leaves the plan reusable, although a fresh plan blocks the member. -/
theorem reuse_after_lost_evidence :
    ¬ReuseIsSound plainRuntime (fun _ => []) (planOf lostMember lostMember_eligible) := by
  intro h
  have hreusable : (classifyPlanReplan plainRuntime (fun _ => [])
      (planOf lostMember lostMember_eligible).input).verdict = .planReusable := by decide
  have hmember := (h hreusable lostMember (.head _)).1
  have hblocked : portfolioEligibility lostMember.now = some .evidenceMissing := by decide
  rw [hblocked] at hmember
  contradiction

end NightWatch.Portfolio.Replan
