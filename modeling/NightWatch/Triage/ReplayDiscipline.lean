import NightWatch.Triage.MinimizerRuns

/-!
What the minimizer does with the replay callback: every call is on the original or on a
proper part of it that the guards admit, no sequence is replayed twice, the calls stay
within the budget, and every run ends.
-/

namespace NightWatch.Triage.ReplayDiscipline

open Lib.JsData Triage.Types Triage.Minimizer Triage.CandidateLedger Triage.MinimizerRuns

variable {W : Type} {options : MinimizationOptions W}

/-- The callback is called on the original first and once, then on proper parts of it, each
one past the guards and no sequence twice. -/
structure Disciplined (options : MinimizationOptions W) (invocations : List (Invocation W)) :
    Prop where
  original : ∀ first, invocations.head? = some first →
    first.sequence = occurrences options ∧ first.phase = .freshExactReplay
  reduced : ∀ invocation ∈ invocations.tail,
    invocation.phase = .reducedCandidate ∧ Proper options invocation.sequence
  called : ∀ invocation ∈ invocations, Called options invocation
  once : (invocations.map (·.sequence)).Nodup

variable {state : MinimizerState W}

theorem disciplined_of_opening (h : Opening options state) :
    Disciplined options state.invocations := by
  rcases h.invocations with hnone | ⟨invocation, hone, hsequence, hphase, hcalled⟩
  · rw [hnone]
    refine ⟨?_, ?_, ?_, List.nodup_nil⟩
    · intro first hfirst
      contradiction
    · intro invocation hmem
      contradiction
    · intro invocation hmem
      contradiction
  · rw [hone]
    refine ⟨?_, ?_, ?_, List.nodup_singleton _⟩
    · rintro first ⟨⟩
      exact ⟨hsequence, hphase⟩
    · intro other hmem
      contradiction
    · intro other hmem
      rw [List.mem_singleton.mp hmem]
      exact hcalled

theorem disciplined_of_replays (h : Replays options state) :
    Disciplined options state.invocations := by
  obtain ⟨first, rest, hfirst, hsequence, hphase, hrest⟩ := h.original
  refine ⟨?_, ?_, h.called, h.once⟩
  · intro other hother
    rw [hfirst] at hother
    cases hother
    exact ⟨hsequence, hphase⟩
  · rw [hfirst]
    exact hrest

variable {conclusion : Conclusion}

theorem candidateEvaluationCount_of_opening (h : state.evaluations.length ≤ 1) :
    (resultBase options state conclusion).candidateEvaluationCount = 0 := by
  have hle := List.length_filter_le
    (fun evaluation : CandidateEvaluation => decide (evaluation.disposition ≠ .notEvaluatedBudget))
    state.evaluations
  dsimp only [resultBase]
  split_ifs with hsome
  · omega
  · omega

theorem candidateEvaluationCount_le (h : Records options state) :
    (resultBase options state conclusion).candidateEvaluationCount ≤ state.candidateEvaluations := by
  obtain ⟨first, rest, hfirst, -⟩ := h.original
  have hcounted := h.counted
  have hsome : 0 < state.evaluations.length := by
    rw [hfirst]
    exact Nat.succ_pos _
  dsimp only [resultBase]
  rw [if_pos hsome]
  omega

/-- A run ends, keeps its calls in order and within the budget, and counts them. -/
theorem replays_disciplined (options : MinimizationOptions W) (world : W) : ∃ enough result state,
      (∀ fuel, enough ≤ fuel → minimizeFailure options fuel world = some (result, state)) ∧
      Disciplined options state.invocations ∧
      Within state.invocations.length (budgetOf options).maxTotalReplays ∧
      ∀ minimized, result = .ok minimized → minimized.replayCount = state.invocations.length ∧
        Within minimized.candidateEvaluationCount (budgetOf options).maxCandidateEvaluations := by
  obtain ⟨enough, ⟨result, state⟩, hrun⟩ := exists_minimizeFailure options world
  refine ⟨enough, result, state, hrun, ?_⟩
  have hends := ends_minimizeFailure (hrun enough (Nat.le_refl _))
  cases hends with
  | threw h =>
      refine ⟨disciplined_of_opening h, h.count ▸ h.within, ?_⟩
      intro minimized hresult
      contradiction
  | @invalidOriginal world hbudget =>
      have h := opening_start options world
      refine ⟨disciplined_of_opening h, within_zero _, ?_⟩
      rintro minimized ⟨⟩
      exact ⟨rfl, within_zero _⟩
  | unreproduced hbudget h hdisposition =>
      refine ⟨disciplined_of_opening h, h.count ▸ h.within, ?_⟩
      rintro minimized ⟨⟩
      refine ⟨h.count, ?_⟩
      rw [unreproduced, candidateEvaluationCount_of_opening h.evaluations]
      exact within_zero _
  | interrupted h =>
      refine ⟨disciplined_of_replays h.replays, h.replays.count ▸ h.replays.within, ?_⟩
      intro minimized hresult
      contradiction
  | concluded hbudget hids h hstopped =>
      refine ⟨disciplined_of_replays h.ledger.replays,
        h.ledger.replays.count ▸ h.ledger.replays.within, ?_⟩
      rintro minimized ⟨⟩
      exact ⟨h.ledger.replays.count,
        h.ledger.records.within.mono (candidateEvaluationCount_le h.ledger.records)⟩

def fractionalBudget : MinimizationBudget where
  policyVersion := "nightwatch.minimization-budget.private.v1".toList
  maxCandidateEvaluations := .ofNat 1
  maxTotalReplays := .finite (3 / 2)

/-- Two replays are made under a budget of one and a half. -/
theorem fractional_budget_exceeded : ∃ result state,
    minimizeFailure (pairOptions fractionalBudget) 10 () = some (.ok result, state) ∧
      state.invocations.length = 2 ∧ fractionalBudget.maxTotalReplays = .finite (3 / 2) ∧
      (3 / 2 : ℚ) < state.invocations.length := by
  obtain ⟨result, state, hrun, -⟩ := exists_result (pairOptions fractionalBudget) 10 ()
    (·.replayCount) 2 (by decide +kernel)
  have hlength : (minimizeFailure (pairOptions fractionalBudget) 10 ()).map
      (fun ended => ended.2.invocations.length) = some 2 := by
    decide +kernel
  rw [hrun] at hlength
  have htwo : state.invocations.length = 2 := Option.some.inj hlength
  refine ⟨result, state, hrun, htwo, rfl, ?_⟩
  rw [htwo]
  norm_num

end NightWatch.Triage.ReplayDiscipline
