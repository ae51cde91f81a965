import NightWatch.Lib.JsData

/-!
The completion verdict of a campaign. Its checks read the counters of the whole population
one by one; what they leave open is whether the counters agree with one another.
-/

namespace NightWatch.AgentRuntime.CampaignCompletion

open Lib.JsText Lib.JsData

def minCampaignInvestigations : Nat := 2

def campaignNonCompletingTerminations : List JsString :=
  ["NO_PROGRESS".toList, "BUDGET_EXHAUSTED".toList, "PAUSED".toList, "CANCELLED".toList,
    "SAFETY_BLOCKED".toList, "REASONER_FAILURE".toList]

inductive CampaignCompletionRefusal where
  | noDeclaredPlan
  | insufficientInvestigations
  | planNotExhausted
  | uncompletedInvestigation
  | noCompletedInvestigation
  | isolatedStagnationTermination
  | providerDegraded
  | noSourceAction
  deriving DecidableEq

def CampaignCompletionRefusal.text : CampaignCompletionRefusal → JsString
  | noDeclaredPlan => "NO_DECLARED_PLAN".toList
  | insufficientInvestigations => "INSUFFICIENT_INVESTIGATIONS".toList
  | planNotExhausted => "PLAN_NOT_EXHAUSTED".toList
  | uncompletedInvestigation => "UNCOMPLETED_INVESTIGATION".toList
  | noCompletedInvestigation => "NO_COMPLETED_INVESTIGATION".toList
  | isolatedStagnationTermination => "ISOLATED_STAGNATION_TERMINATION".toList
  | providerDegraded => "PROVIDER_DEGRADED".toList
  | noSourceAction => "NO_SOURCE_ACTION".toList

structure CampaignCompletionEvidence where
  expectedInvestigations : Option JsNumber
  investigationsStarted : JsNumber
  investigationsCompleted : JsNumber
  terminationCounts : List (JsString × JsNumber)
  providerTerminationClass : JsString
  sourceActions : JsNumber
  terminatedOnStagnation : Bool
  suspendedProviderFailure : Option Bool

inductive CompletionReason where
  | withFinding
  | noFinding

def CompletionReason.text : CompletionReason → JsString
  | withFinding => "COMPLETE_WITH_FINDING".toList
  | noFinding => "COMPLETE_NO_FINDING".toList

structure CampaignCompletionVerdict where
  complete : Bool
  withFinding : Bool
  refusals : List CampaignCompletionRefusal
  terminationReason : Option CompletionReason
  expectedInvestigations : Option Nat
  investigationsStarted : Nat
  investigationsCompleted : Nat

def countOf : JsNumber → Nat
  | .finite q => ⌊q⌋.toNat
  | _ => 0

def integerOrNull : Option JsNumber → Option Nat
  | some (.finite q) => if q.den = 1 ∧ 0 ≤ q then some q.num.toNat else none
  | _ => none

namespace CampaignCompletionEvidence

variable (evidence : CampaignCompletionEvidence)

/-- `counts[reason]`, as a count. -/
def reasonCount (reason : JsString) : Nat :=
  ((evidence.terminationCounts.lookup reason).map countOf).getD 0

def expected : Option Nat := integerOrNull evidence.expectedInvestigations

def started : Nat := countOf evidence.investigationsStarted

def completed : Nat := countOf evidence.investigationsCompleted

def completedInvestigations : Nat :=
  evidence.reasonCount CompletionReason.withFinding.text +
    evidence.reasonCount CompletionReason.noFinding.text

end CampaignCompletionEvidence

def refuseIf (refused : Prop) [Decidable refused] (refusal : CampaignCompletionRefusal) :
    List CampaignCompletionRefusal := if refused then [refusal] else []

def refusalsOf (evidence : CampaignCompletionEvidence) : List CampaignCompletionRefusal :=
  refuseIf (∀ plan ∈ evidence.expected, plan < minCampaignInvestigations) .noDeclaredPlan ++
  refuseIf (evidence.started < minCampaignInvestigations ∨
    evidence.completed < minCampaignInvestigations) .insufficientInvestigations ++
  refuseIf (∃ plan ∈ evidence.expected, evidence.started < plan) .planNotExhausted ++
  refuseIf (evidence.completed < evidence.started) .uncompletedInvestigation ++
  refuseIf (evidence.completedInvestigations < 1) .noCompletedInvestigation ++
  refuseIf (∃ reason ∈ campaignNonCompletingTerminations, 0 < evidence.reasonCount reason)
    .uncompletedInvestigation ++
  refuseIf (evidence.terminatedOnStagnation = true) .isolatedStagnationTermination ++
  refuseIf (evidence.providerTerminationClass ≠ "VALID_PROVIDER_RUN".toList) .providerDegraded ++
  refuseIf (evidence.suspendedProviderFailure = some true) .providerDegraded ++
  refuseIf (countOf evidence.sourceActions < 1) .noSourceAction

def evaluateCampaignCompletion (evidence : CampaignCompletionEvidence) :
    CampaignCompletionVerdict :=
  let unique := (refusalsOf evidence).eraseDups
  let withFinding : Bool := 0 < evidence.reasonCount CompletionReason.withFinding.text
  { complete := unique.isEmpty
    withFinding := withFinding
    refusals := unique
    terminationReason :=
      if unique.isEmpty then some (if withFinding then .withFinding else .noFinding) else none
    expectedInvestigations := evidence.expected
    investigationsStarted := evidence.started
    investigationsCompleted := evidence.completed }

section Verdicts

variable {evidence : CampaignCompletionEvidence}

/-- What the checks see: the plan, the population, the reasons they know, the provider and
the actions. -/
structure Passes (evidence : CampaignCompletionEvidence) : Prop where
  plan : ∃ plan ∈ evidence.expected, minCampaignInvestigations ≤ plan ∧ plan ≤ evidence.started
  completed : evidence.started ≤ evidence.completed
  finished : 1 ≤ evidence.completedInvestigations
  listed : ∀ reason ∈ campaignNonCompletingTerminations, evidence.reasonCount reason = 0
  stagnation : evidence.terminatedOnStagnation = false
  provider : evidence.providerTerminationClass = "VALID_PROVIDER_RUN".toList
  suspended : evidence.suspendedProviderFailure ≠ some true
  actions : 1 ≤ countOf evidence.sourceActions

theorem refuseIf_eq_nil {refused : Prop} [Decidable refused]
    {refusal : CampaignCompletionRefusal} : refuseIf refused refusal = [] ↔ ¬ refused := by
  rw [refuseIf]
  split
  · rename_i h
    simp [h]
  · rename_i h
    simp [h]

theorem refusalsOf_eq_nil : refusalsOf evidence = [] ↔ Passes evidence := by
  simp only [refusalsOf, List.append_eq_nil_iff, refuseIf_eq_nil, and_assoc]
  constructor
  · rintro ⟨hplan, hfew, hexhausted, hopen, hnone, hlisted, hstagnation, hprovider, hsuspended,
      hactions⟩
    push Not at hplan hfew hexhausted hlisted
    obtain ⟨plan, hmem, hmin⟩ := hplan
    exact {
      plan := ⟨plan, hmem, hmin, hexhausted plan hmem⟩
      completed := by omega
      finished := by omega
      listed := fun reason hreason => Nat.le_zero.mp (hlisted reason hreason)
      stagnation := Bool.eq_false_iff.mpr hstagnation
      provider := not_not.mp hprovider
      suspended := hsuspended
      actions := by omega }
  · intro h
    obtain ⟨plan, hmem, hmin, hstarted⟩ := h.plan
    have hcompleted := h.completed
    have hfinished := h.finished
    have hactions := h.actions
    have hunique : ∀ other ∈ evidence.expected, other = plan :=
      fun other hother => Option.some.inj (hother.symm.trans hmem)
    refine ⟨?_, ?_, ?_, by omega, by omega, ?_, ?_, not_not.mpr h.provider, h.suspended, by omega⟩
    · intro hall
      exact absurd (hall plan hmem) (Nat.not_lt.mpr hmin)
    · omega
    · rintro ⟨other, hother, hlt⟩
      rw [hunique other hother] at hlt
      omega
    · rintro ⟨reason, hreason, hpos⟩
      rw [h.listed reason hreason] at hpos
      exact absurd hpos (Nat.lt_irrefl 0)
    · rw [h.stagnation]
      exact Bool.false_ne_true

theorem eraseDups_eq_nil {refusals : List CampaignCompletionRefusal} :
    refusals.eraseDups = [] ↔ refusals = [] := by
  rw [List.eq_nil_iff_forall_not_mem, List.eq_nil_iff_forall_not_mem]
  simp only [List.mem_eraseDups]

theorem complete_iff : (evaluateCampaignCompletion evidence).complete = true ↔ Passes evidence := by
  rw [← refusalsOf_eq_nil, ← eraseDups_eq_nil]
  exact List.isEmpty_iff

end Verdicts

section Populations

/-- `counts[reason]` as it stands; a missing count is zero. -/
def rawCount (evidence : CampaignCompletionEvidence) (reason : JsString) : JsNumber :=
  (evidence.terminationCounts.lookup reason).getD (.finite 0)

/-- The counters agree: all that started is completed, it is completed with or without a
finding, and no other reason is counted. -/
structure Agrees (evidence : CampaignCompletionEvidence) : Prop where
  completed : evidence.investigationsCompleted = evidence.investigationsStarted
  accounted : ∃ withFinding noFinding : ℚ,
    rawCount evidence CompletionReason.withFinding.text = .finite withFinding ∧
    rawCount evidence CompletionReason.noFinding.text = .finite noFinding ∧
    evidence.investigationsCompleted = .finite (withFinding + noFinding)
  others : ∀ reason, reason ≠ CompletionReason.withFinding.text →
    reason ≠ CompletionReason.noFinding.text → rawCount evidence reason = .finite 0

/-- The whole population reached a completion reason. -/
structure WholePopulation (evidence : CampaignCompletionEvidence) : Prop extends
    Agrees evidence where
  plan : ∃ plan : Nat, evidence.expectedInvestigations = some (.ofNat plan) ∧ 2 ≤ plan ∧
    evidence.investigationsStarted.ge (.ofNat plan) = true

variable {evidence : CampaignCompletionEvidence}

theorem ofNat_of_integerOrNull {value : Option JsNumber} {n : Nat}
    (h : integerOrNull value = some n) : value = some (.ofNat n) := by
  unfold integerOrNull at h
  split at h
  · rename_i q
    split at h
    · rename_i hwhole
      obtain ⟨hden, hnonneg⟩ := hwhole
      have hcast : ((q.num.toNat : ℕ) : ℤ) = q.num :=
        Int.toNat_of_nonneg (Rat.num_nonneg.mpr hnonneg)
      have hnum : ((q.num.toNat : ℕ) : ℚ) = q := by
        rw [← Int.cast_natCast, hcast]
        exact (Rat.den_eq_one_iff q).mp hden
      rw [← Option.some.inj h, JsNumber.ofNat, hnum]
    · contradiction
  · contradiction

theorem ge_of_le_countOf {n : Nat} {value : JsNumber} (hpos : 0 < n) (h : n ≤ countOf value) :
    value.ge (.ofNat n) = true := by
  cases value with
  | finite q =>
      have hfloor : (n : ℤ) ≤ ⌊q⌋ := by
        have hcount : n ≤ ⌊q⌋.toNat := h
        omega
      have hle : (n : ℚ) ≤ q := by exact_mod_cast Int.le_floor.mp hfloor
      simpa [JsNumber.ge, JsNumber.lt, JsNumber.ofNat] using hle
  | nan =>
      have hzero : n ≤ 0 := h
      omega
  | posInfinity =>
      have hzero : n ≤ 0 := h
      omega
  | negInfinity =>
      have hzero : n ≤ 0 := h
      omega

def unknownReason : CampaignCompletionEvidence where
  expectedInvestigations := some (.ofNat 2)
  investigationsStarted := .ofNat 2
  investigationsCompleted := .ofNat 2
  terminationCounts := [("COMPLETE_NO_FINDING".toList, .ofNat 1), ("TIMED_OUT".toList, .ofNat 1)]
  providerTerminationClass := "VALID_PROVIDER_RUN".toList
  sourceActions := .ofNat 1
  terminatedOnStagnation := false
  suspendedProviderFailure := none

end Populations

end NightWatch.AgentRuntime.CampaignCompletion
