import NightWatch.Triage.ReplayAgreement

namespace NightWatch.Triage.JourneyGuard

open Lib.JsText Triage.Types ReplayPlan ReplayBinding ReplayAgreement

section Guard

variable (definitions : List JourneyDefinition)

def journeyOf (plan : TriageReplayPlanV2) : Option JourneyDefinition :=
  definitions.find? fun journey => journey.journeyId = plan.targetId

def retainedIds (plan : TriageReplayPlanV2) : List JsString :=
  plan.retainedOccurrenceOrdinals.map fun ordinal =>
    (actionOf plan.originalOccurrences ordinal).getD []

/-- `journeyPreconditionCheck` with its table as a parameter. -/
def journeyPreconditionCheckIn (plan : TriageReplayPlanV2) : CandidateGuardResult :=
  match journeyOf definitions plan with
  | none => guardFailure .actionNotApproved
  | some definition =>
      let allowed := definition.allowedSteps
      if (retainedIds plan).length = 1 ∧ 1 < allowed.length ∧
          (retainedIds plan).head? ≠ allowed.head? then
        guardFailure .preconditionDivergence
      else if 1 < (retainedIds plan).length then consecutiveSteps allowed none (retainedIds plan)
      else guardPassed

def kindGuardIn : ReplayKindGuardId → TriageReplayPlanV2 → CandidateGuardResult
  | .rippleJourneyPrecondition => journeyPreconditionCheckIn definitions
  | .explorationSafeActionCatalog => explorationGuardV2
  | .phase5ApiKnownRead => apiCatalogGuardV2

/-- `validateReplayPlanV2` over a table of journeys. -/
def validateReplayPlanV2In (digest : TriageReplayPlanV2 → JsString) (plan : TriageReplayPlanV2) :
    Except JsString Unit := do
  validateTriageReplayPlanV2 digest plan
  let semantics := plan.candidateKind.semantics
  failIf (decide (plan.phase ∉ semantics.admittedPhases)) semantics.phaseRejectionReason
  let result := kindGuardIn definitions semantics.guard plan
  failIf (!result.valid) ((result.reason.map GuardReason.text).getD semantics.invalidFallbackReason)

end Guard

section Runs

variable {definitions : List JourneyDefinition} {plan : TriageReplayPlanV2}
  {allowed ids : List JsString}

theorem consecutive_after {last : Nat}
    (h : (consecutiveSteps allowed (some last) ids).valid = true) :
    ids <+: allowed.drop (last + 1) := by
  induction ids generalizing last with
  | nil => exact List.nil_prefix
  | cons id rest ih =>
      rw [consecutiveSteps] at h
      cases hindex : allowed.idxOf? id with
      | none =>
          rw [hindex] at h
          contradiction
      | some index =>
          simp only [hindex, Option.any_some] at h
          split at h
          · contradiction
          · rename_i hnext
            have hsucc : index = last + 1 := by simpa using hnext
            subst hsucc
            obtain ⟨hlt, hid, -⟩ := List.idxOf?_eq_some_iff.mp hindex
            have hdrop : allowed.drop (last + 1) = id :: allowed.drop (last + 1 + 1) := by
              rw [List.drop_eq_getElem_cons hlt, hid]
            rw [hdrop, List.cons_prefix_cons]
            exact ⟨rfl, ih h⟩

theorem consecutive_from_first
    (h : (consecutiveSteps allowed none ids).valid = true) (hfirst : ids.head? = allowed.head?) :
    ids <+: allowed := by
  cases ids with
  | nil => exact List.nil_prefix
  | cons id rest =>
      cases allowed with
      | nil => simp at hfirst
      | cons first steps =>
          obtain rfl : id = first := by simpa using hfirst
          rw [consecutiveSteps, List.idxOf?_cons] at h
          simp only [beq_self_eq_true, if_true, Option.any_none] at h
          have hrest : rest <+: (id :: steps).drop (0 + 1) := consecutive_after (by simpa using h)
          rw [List.cons_prefix_cons]
          exact ⟨rfl, by simpa using hrest⟩

/-- The replay of a journey as its executor may see it. -/
def ReplaysJourney (definitions : List JourneyDefinition) (plan : TriageReplayPlanV2) : Prop :=
  retainedIds plan = [] ∨
    ∃ definition, journeyOf definitions plan = some definition ∧
      retainedIds plan <+: definition.allowedSteps

def StartsWithNavigation (definitions : List JourneyDefinition) (plan : TriageReplayPlanV2) :
    Prop :=
  ∀ id, (retainedIds plan).head? = some id →
    (journeyOf definitions plan).bind (fun definition => definition.allowedSteps.head?) = some id

theorem guard_of_validate {digest : TriageReplayPlanV2 → JsString}
    (h : validateReplayPlanV2In definitions digest plan = .ok ())
    (hkind : plan.candidateKind = .journey) :
    (journeyPreconditionCheckIn definitions plan).valid = true := by
  simp only [validateReplayPlanV2In, then_eq_ok, failIf_eq_ok, hkind] at h
  simpa [ReplayCandidateKind.semantics, kindGuardIn] using h.2.2

/-- An accepted journey plan replays the journey exactly where it starts with the
navigation: the guard asks a single step for this, and several steps only to follow one
another. -/
theorem replays_journey_iff (definitions : List JourneyDefinition)
    (digest : TriageReplayPlanV2 → JsString) (plan : TriageReplayPlanV2)
    (hkind : plan.candidateKind = .journey)
    (haccepted : validateReplayPlanV2In definitions digest plan = .ok ()) :
    ReplaysJourney definitions plan ↔ StartsWithNavigation definitions plan := by
  have hguard := guard_of_validate haccepted hkind
  constructor
  · rintro (hempty | ⟨definition, hjourney, hrun⟩) id hid
    · simp [hempty] at hid
    · obtain ⟨rest, hrest⟩ := hrun
      rw [hjourney, Option.bind_some, ← hrest, List.head?_append, hid]
      rfl
  · intro hstart
    cases hids : retainedIds plan with
    | nil => exact .inl hids
    | cons id rest =>
        have hnavigation := hstart id (by rw [hids, List.head?_cons])
        obtain ⟨definition, hjourney, hfirst⟩ := Option.bind_eq_some_iff.mp hnavigation
        refine .inr ⟨definition, hjourney, ?_⟩
        have hheads : (retainedIds plan).head? = definition.allowedSteps.head? := by
          rw [hids, List.head?_cons, hfirst]
        rw [journeyPreconditionCheckIn, hjourney] at hguard
        simp only [hheads, ne_eq, not_true_eq_false, and_false, if_false] at hguard
        split at hguard
        · exact consecutive_from_first hguard hheads
        · rename_i hshort
          obtain ⟨steps, hsteps⟩ := List.head?_eq_some_iff.mp hfirst
          have hrest : rest = [] := by
            rw [hids, List.length_cons] at hshort
            exact List.length_eq_zero_iff.mp (by omega)
          rw [hids, hrest, hsteps, List.cons_prefix_cons]
          exact ⟨rfl, List.nil_prefix⟩

def longJourney : JourneyDefinition :=
  ⟨"journey".toList, ["navigate".toList, "filter".toList, "checkpoint".toList]⟩

def journeyPlan (first second : String) : TriageReplayPlanV2 where
  planId := "rp2:sha256:".toList ++ List.replicate 24 '0'
  candidateKind := .journey
  anomalyFingerprint := "fp:sha256:".toList ++ List.replicate 24 'a'
  originalOccurrences := [⟨0, first.toList⟩, ⟨1, second.toList⟩]
  retainedOccurrenceOrdinals := [0, 1]
  phase := .freshExactReplay
  targetId := "journey".toList
  contractVersion := "v1".toList
  contractDigest := List.replicate 64 'b'
  catalogVersion := "v1".toList
  sourceVersion := "v1".toList
  routeClass := "/journey".toList
  semanticExpectationId := none
  sourceEvidenceDigest := none

def steadyDigest : TriageReplayPlanV2 → JsString := fun _ => List.replicate 24 '0'

theorem journeyPlan_accepted {first second : String}
    (hids : checkOccurrences [] (journeyPlan first second).originalOccurrences = .ok ())
    (hguard : (journeyPreconditionCheckIn [longJourney] (journeyPlan first second)).valid = true) :
    validateReplayPlanV2In [longJourney] steadyDigest (journeyPlan first second) = .ok () := by
  simp only [validateReplayPlanV2In, validateTriageReplayPlanV2, then_eq_ok, failIf_eq_ok]
  refine ⟨⟨rfl, rfl, rfl, rfl, rfl, rfl, rfl, rfl, rfl, hids, rfl, rfl, rfl, ?_, rfl, rfl, rfl, rfl,
    rfl, rfl⟩, rfl, ?_⟩
  · rw [decide_eq_false_iff_not]
    rintro ⟨-, hsorted⟩
    exact hsorted rfl
  · rw [Bool.not_eq_false']
    exact hguard

theorem replays_journey_iff_navigated :
    ReplaysJourney [longJourney] (journeyPlan "navigate" "filter") ↔
      StartsWithNavigation [longJourney] (journeyPlan "navigate" "filter") :=
  replays_journey_iff [longJourney] steadyDigest (journeyPlan "navigate" "filter") rfl
    (journeyPlan_accepted (by decide +kernel) (by decide +kernel))

/-- A plan of the last two steps is accepted and starts in the middle of the journey. -/
theorem starts_in_the_middle :
    validateReplayPlanV2In [longJourney] steadyDigest (journeyPlan "filter" "checkpoint") =
        .ok () ∧
      ¬ ReplaysJourney [longJourney] (journeyPlan "filter" "checkpoint") := by
  constructor
  · exact journeyPlan_accepted (by decide +kernel) (by decide +kernel)
  · rintro (hempty | ⟨definition, hjourney, hrun⟩)
    · exact absurd hempty (by decide +kernel)
    · have hlong : journeyOf [longJourney] (journeyPlan "filter" "checkpoint") =
          some longJourney := rfl
      rw [hlong] at hjourney
      obtain rfl := Option.some.inj hjourney
      revert hrun
      decide +kernel

end Runs

end NightWatch.Triage.JourneyGuard
