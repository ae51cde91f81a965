import NightWatch.Lib.OneShot
import NightWatch.Triage.ReductionLoops

/-!
Whole runs of the minimizer. Its books hold wherever a run ends, so a survivor is backed
by calls of the callback, a proven minimality by a call for each single deletion, and
the calls stay within the original and its proper parts.
-/

namespace NightWatch.Triage.MinimizerRuns

open Lib Lib.JsText Lib.JsData Lib.Loop Triage.Types Triage.Minimizer Triage.CandidateLedger
  Triage.ReductionLoops

variable {W : Type} {options : MinimizationOptions W}

/-- A part of the original that has reproduced. -/
structure Survives (options : MinimizationOptions W) (state : MinimizerState W)
    (current : List ActionOccurrence) : Prop where
  nonempty : current ≠ []
  sublist : List.Sublist current (occurrences options)
  reproduces : Judged state current .reproduces

variable {candidate current : List ActionOccurrence} {fuel : Nat}

variable {state' : MinimizerState W}

theorem Survives.mono {state : MinimizerState W}
    (h : Survives options state current) (hextends : Extends state state') :
    Survives options state' current :=
  ⟨h.nonempty, h.sublist, h.reproduces.mono hextends⟩

theorem Survives.proper {state : MinimizerState W}
    (h : Survives options state current) (hsmaller : Smaller current candidate) :
    Proper options candidate :=
  ⟨hsmaller.nonempty, hsmaller.sublist.trans h.sublist,
    Nat.lt_of_lt_of_le hsmaller.shorter h.sublist.length_le⟩

theorem Survives.smaller {state : MinimizerState W} (h : Survives options state current)
    (hsmaller : Smaller current candidate) (hreproduces : Judged state' candidate .reproduces) :
    Survives options state' candidate :=
  ⟨hsmaller.nonempty, hsmaller.sublist.trans h.sublist, hreproduces⟩

/-- The books between two turns of the reduction. -/
structure ReductionKept (options : MinimizationOptions W) (reduction : Reduction)
    (state : MinimizerState W) : Prop where
  ledger : Ledger options state
  survives : Survives options state reduction.current
  complete : reduction.budgetExhausted = false → Complete options state

/-- The books between two turns of the audit. -/
structure AuditKept (options : MinimizationOptions W) (audit : Audit)
    (state : MinimizerState W) : Prop where
  ledger : Ledger options state
  survives : Survives options state audit.current
  complete : audit.budgetExhausted = false → Complete options state
  judged : audit.changedInAudit = false → audit.budgetExhausted = false →
    List.Forall₂ (Judged state) (singleDeletions audit.current) audit.finalPassDispositions

/-- Nothing is left for the audit to do. -/
def Stopped (audit : Audit) : Prop :=
  ¬ (audit.changedInAudit = true ∧ audit.budgetExhausted = false ∧ 1 < audit.current.length)

section Invariants

variable (hids : ∀ item ∈ occurrences options, isActionId item.action.actionId = true)

include hids

variable {reduction : Reduction} {result : Except JsString Pass}

variable {state' : MinimizerState W}

theorem walked_reduction {state : MinimizerState W}
    (h : ReductionKept options reduction state) (hbudget : reduction.budgetExhausted = false)
    (hwalk : Walk options (chunkCandidates reduction.current reduction.granularity) state result
      state') :
    Walked options (chunkCandidates reduction.current reduction.granularity) state result
      state' := by
  apply hwalk.walked hids h.ledger (h.complete hbudget)
  intro candidate hcandidate
  exact h.survives.proper (smaller_of_mem_chunkCandidates h.survives.nonempty hcandidate)

theorem walked_audit {audit : Audit} {state : MinimizerState W} (h : AuditKept options audit state)
    (hbudget : audit.budgetExhausted = false) (hlength : 1 < audit.current.length)
    (hwalk : Walk options (singleDeletions audit.current) state result state') :
    Walked options (singleDeletions audit.current) state result state' := by
  apply hwalk.walked hids h.ledger (h.complete hbudget)
  intro candidate hcandidate
  exact h.survives.proper (smaller_of_mem_singleDeletions hlength hcandidate)

theorem kept_reduceTurn {reduction' : Reduction} {state : MinimizerState W}
    (h : ReductionKept options reduction state)
    (hturn : reduceTurn options (reduction, state) = .again (reduction', state')) :
    ReductionKept options reduction' state' := by
  have hspec := reduceTurn_spec options reduction state
  rw [hturn] at hspec
  cases hspec with
  | exhausted hlength hbudget hwalk hending =>
      have hwalked := walked_reduction hids h hbudget hwalk
      refine ⟨hwalked.ledger, h.survives.mono hwalked.keeps, ?_⟩
      intro hfalse
      contradiction
  | @reproduced pass _ candidate hlength hbudget hwalk hending =>
      have hwalked := walked_reduction hids h hbudget hwalk
      have hsmaller := smaller_of_mem_chunkCandidates h.survives.nonempty
        (hwalk.mem_of_reproduced pass candidate rfl hending)
      refine ⟨hwalked.ledger, ?_, ?_⟩
      · exact h.survives.smaller hsmaller (hwalked.reproduced pass candidate rfl hending)
      · intro _
        exact hwalked.complete pass rfl (by rw [hending]; exact PassEnd.noConfusion)
  | @refined pass _ hlength hbudget hwalk hending hcoarse =>
      have hwalked := walked_reduction hids h hbudget hwalk
      refine ⟨hwalked.ledger, h.survives.mono hwalked.keeps, ?_⟩
      intro _
      exact hwalked.complete pass rfl (by rw [hending]; exact PassEnd.noConfusion)

theorem kept_reduceTurn_done {state : MinimizerState W}
    {result : Except JsString Reduction} (h : ReductionKept options reduction state)
    (hturn : reduceTurn options (reduction, state) = .done (result, state')) :
    Ledger options state' ∧
      ∀ reduction', result = .ok reduction' → ReductionKept options reduction' state' := by
  have hspec := reduceTurn_spec options reduction state
  rw [hturn] at hspec
  cases hspec with
  | stop hstop =>
      refine ⟨h.ledger, ?_⟩
      rintro _ ⟨⟩
      exact h
  | threw hlength hbudget hwalk =>
      refine ⟨(walked_reduction hids h hbudget hwalk).ledger, ?_⟩
      intro reduction' hresult
      contradiction
  | @finest pass _ hlength hbudget hwalk hending =>
      have hwalked := walked_reduction hids h hbudget hwalk
      refine ⟨hwalked.ledger, ?_⟩
      rintro _ ⟨⟩
      refine ⟨hwalked.ledger, h.survives.mono hwalked.keeps, ?_⟩
      intro _
      exact hwalked.complete pass rfl (by rw [hending]; exact PassEnd.noConfusion)

theorem kept_auditTurn {audit audit' : Audit} {state : MinimizerState W}
    (h : AuditKept options audit state)
    (hturn : auditTurn options (audit, state) = .again (audit', state')) :
    AuditKept options audit' state' := by
  have hspec := auditTurn_spec options audit state
  rw [hturn] at hspec
  cases hspec with
  | @completed pass _ hchanged hbudget hlength hwalk hending =>
      have hwalked := walked_audit hids h hbudget hlength hwalk
      refine ⟨hwalked.ledger, h.survives.mono hwalked.keeps, ?_, ?_⟩
      · intro _
        exact hwalked.complete pass rfl (by rw [hending]; exact PassEnd.noConfusion)
      · intro _ _
        exact hwalked.judged pass rfl hending
  | exhausted hchanged hbudget hlength hwalk hending =>
      have hwalked := walked_audit hids h hbudget hlength hwalk
      refine ⟨hwalked.ledger, h.survives.mono hwalked.keeps, ?_, ?_⟩
      · intro hfalse
        contradiction
      · intro _ hfalse
        contradiction
  | @reproduced pass _ candidate hchanged hbudget hlength hwalk hending =>
      have hwalked := walked_audit hids h hbudget hlength hwalk
      have hsmaller := smaller_of_mem_singleDeletions hlength
        (hwalk.mem_of_reproduced pass candidate rfl hending)
      refine ⟨hwalked.ledger, ?_, ?_, ?_⟩
      · exact h.survives.smaller hsmaller (hwalked.reproduced pass candidate rfl hending)
      · intro _
        exact hwalked.complete pass rfl (by rw [hending]; exact PassEnd.noConfusion)
      · intro hfalse
        contradiction

theorem kept_auditTurn_done {audit : Audit} {state : MinimizerState W}
    {result : Except JsString Audit} (h : AuditKept options audit state)
    (hturn : auditTurn options (audit, state) = .done (result, state')) : Ledger options state' ∧
      ∀ audit', result = .ok audit' → AuditKept options audit' state' ∧ Stopped audit' := by
  have hspec := auditTurn_spec options audit state
  rw [hturn] at hspec
  cases hspec with
  | stop hstop =>
      refine ⟨h.ledger, ?_⟩
      rintro _ ⟨⟩
      exact ⟨h, hstop⟩
  | threw hbudget hlength hwalk =>
      refine ⟨(walked_audit hids h hbudget hlength hwalk).ledger, ?_⟩
      intro audit' hresult
      contradiction

end Invariants

/-- The books before a reduced candidate has been evaluated: the original may have been
replayed. -/
structure Opening (options : MinimizationOptions W) (state : MinimizerState W) : Prop where
  invocations : state.invocations = [] ∨ ∃ invocation, state.invocations = [invocation] ∧
    invocation.sequence = occurrences options ∧ invocation.phase = .freshExactReplay ∧
    Called options invocation
  count : state.replayCount = state.invocations.length
  within : Within state.replayCount (budgetOf options).maxTotalReplays
  evaluations : state.evaluations.length ≤ 1

theorem opening_start (options : MinimizationOptions W) (world : W) : Opening options
    (.start world) where
  invocations := Or.inl rfl
  count := rfl
  within := within_zero _
  evaluations := Nat.zero_le _

theorem isActionId_of_valid {action : MinimizationAction}
    (h : (validateActionCatalog options action).valid = true) :
    isActionId action.actionId = true := by
  cases hid : isActionId action.actionId with
  | true => rfl
  | false =>
      rw [validateActionCatalog, hid, Bool.not_false, if_pos (rfl : true = true)] at h
      split_ifs at h
      all_goals contradiction

theorem refusedAction_spec (options : MinimizationOptions W) (sequence : List ActionOccurrence) :
    match refusedAction options sequence with
    | some check => check.valid = false
    | none => ∀ item ∈ sequence, isActionId item.action.actionId = true := by
  induction sequence with
  | nil =>
      intro item hitem
      contradiction
  | cons first rest ih =>
      rw [refusedAction]
      by_cases horiginal : first.action.actionId ∉ originalIds options
      · rw [if_pos horiginal]
        rfl
      · rw [if_neg horiginal]
        dsimp only
        cases hcheck : (validateActionCatalog options first.action).valid with
        | false => simpa using hcheck
        | true =>
            rw [Bool.not_true, if_neg Bool.false_ne_true]
            cases hrest : refusedAction options rest with
            | some check =>
                rw [hrest] at ih
                exact ih
            | none =>
                rw [hrest] at ih
                intro item hitem
                rcases List.mem_cons.mp hitem with rfl | hmem
                · exact isActionId_of_valid hcheck
                · exact ih item hmem

variable {guard : CandidateGuardResult}

theorem isActionId_of_guard {world world' : W} {sequence : List ActionOccurrence}
    (h : guardSequence options world sequence = (.ok guard, world')) (hvalid : guard.valid = true) :
    ∀ item ∈ sequence, isActionId item.action.actionId = true := by
  have hspec := refusedAction_spec options sequence
  rw [guardSequence] at h
  cases hcontract : (safeGuardFromContract (safetyContract options)).valid with
  | false =>
      simp only [hcontract, Bool.not_false, if_true, Prod.mk.injEq, Except.ok.injEq] at h
      rw [← h.1, hcontract] at hvalid
      contradiction
  | true =>
      simp only [hcontract, Bool.not_true, Bool.false_eq_true, if_false] at h
      cases hrefused : refusedAction options sequence with
      | none =>
          rw [hrefused] at hspec
          exact hspec
      | some check =>
          rw [hrefused] at hspec h
          cases h
          have hinvalid : guard.valid = false := hspec
          rw [hvalid] at hinvalid
          contradiction

theorem known_start (world : W) (candidate : List ActionOccurrence) :
    known (MinimizerState.start world) candidate = none := rfl

theorem known_bookReplay (candidate other : List ActionOccurrence) (phase : ReplayPhase)
    (before : W) (returned : Option CandidateReplayOutcome) (state : MinimizerState W) :
    known (bookReplay options candidate phase before returned state) other =
      if sequenceKey other = sequenceKey candidate then
        some (replayedCandidate options candidate returned)
      else known state other :=
  lookup_mapSet

theorem ledger_of_reproduced
    (hids : ∀ item ∈ occurrences options, isActionId item.action.actionId = true)
    (hne : occurrences options ≠ []) {world guarded after : W}
    {returned : Option CandidateReplayOutcome}
    (hguard : guardSequence options world (occurrences options) = (.ok guard, guarded))
    (hvalid : guard.valid = true)
    (hbudget : (JsNumber.ofNat 0).ge (budgetOf options).maxTotalReplays = false)
    (hreplay : options.replay guarded ((occurrences options).map (·.action)) .freshExactReplay =
      (returned, after)) (hreproduces : (replayedCandidate options (occurrences options)
      returned).evaluation.disposition = .reproduces) :
    ReductionKept options ⟨occurrences options, min 2 (occurrences options).length, false, false⟩
      (bookReplay options (occurrences options) .freshExactReplay world returned
        { MinimizerState.start world with world := after }) := by
  have hknown : known (bookReplay options (occurrences options) .freshExactReplay world returned
      { MinimizerState.start world with world := after }) (occurrences options) =
      some (replayedCandidate options (occurrences options) returned) := by
    rw [known_bookReplay, if_pos rfl]
  have hcalled : Called options ⟨occurrences options, .freshExactReplay, world, returned⟩ :=
    ⟨guard, guarded, after, hguard, hvalid, hreplay⟩
  refine ⟨⟨?_, ?_⟩, ⟨hne, List.Sublist.refl _, ⟨_, hknown, hreproduces⟩⟩, ?_⟩
  · refine ⟨⟨_, [], rfl, rfl, rfl, ?_⟩, ?_, List.nodup_singleton _, rfl, rfl, within_succ hbudget,
      ?_⟩
    · intro invocation hmem
      contradiction
    · intro invocation hmem
      rw [List.mem_singleton.mp hmem]
      exact hcalled
    · intro invocation hmem
      rw [List.mem_singleton.mp hmem, hknown, Option.isSome_some]
  · refine ⟨?_, ?_, ⟨_, [], rfl, hreproduces, rfl⟩, List.nodup_singleton _, ?_, within_zero _⟩
    · intro candidate e hsub he
      rw [known_bookReplay] at he
      split_ifs at he with hkey
      · obtain rfl := sequenceKey_injective hids hsub (List.Sublist.refl _) hkey
        obtain rfl := Option.some.inj he
        refine ⟨⟨_, List.mem_singleton_self _, rfl, rfl, rfl⟩, disposition_replayed _ _, ?_⟩
        intro _
        exact ⟨_, List.mem_singleton_self _, rfl, rfl⟩
      · have hnone : none = some e := he
        contradiction
    · intro evaluation hmem
      rw [List.mem_singleton.mp hmem]
      exact ⟨occurrences options, hne, List.Sublist.refl _, rfl, rfl⟩
    · exact List.length_filter_le _ _
  · intro _ evaluation hmem
    rw [List.mem_singleton.mp hmem]
    refine ⟨occurrences options, List.Sublist.refl _, rfl, ?_⟩
    rw [hknown, Option.isSome_some]

theorem fresh_evaluate (hids : ∀ item ∈ occurrences options, isActionId item.action.actionId = true)
    (hne : occurrences options ≠ []) {world : W} {result : Except JsString EvaluatedCandidate}
    {state : MinimizerState W}
    (h : Evaluates options (occurrences options) .freshExactReplay (.start world) result state) :
    Opening options state ∧ ∀ e, result = .ok e → e.evaluation.disposition = .reproduces →
      ReductionKept options
        ⟨occurrences options, min 2 (occurrences options).length, false, false⟩ state := by
  cases h with
  | cached hknown =>
      rw [known_start] at hknown
      contradiction
  | threw hnew =>
      refine ⟨⟨Or.inl rfl, rfl, within_zero _, Nat.zero_le _⟩, ?_⟩
      intro e he
      contradiction
  | skipped hnew hcounted =>
      refine ⟨⟨Or.inl rfl, rfl, within_zero _, Nat.le_refl _⟩, ?_⟩
      rintro e ⟨⟩ hreproduces
      contradiction
  | rejected hnew hroom =>
      refine ⟨⟨Or.inl rfl, rfl, within_zero _, Nat.le_refl _⟩, ?_⟩
      rintro e ⟨⟩ hreproduces
      contradiction
  | @replayed guard guarded after returned hnew hroom hguard hvalid hbudget hreplay =>
      constructor
      · refine ⟨Or.inr ⟨_, rfl, rfl, rfl, guard, guarded, after, hguard, hvalid, hreplay⟩, rfl,
          within_succ hbudget, Nat.le_refl _⟩
      · rintro e ⟨⟩ hreproduces
        exact ledger_of_reproduced hids hne hguard hvalid hbudget hreplay hreproduces

/-- How a run ends, with the books it leaves behind. -/
inductive Ends (options : MinimizationOptions W) : Minimized W → Prop
  | threw {message state} (h : Opening options state) : Ends options (.error message, state)
  | invalidOriginal {world} (hbudget : budgetIsInvalid (budgetOf options) = false) :
      Ends options (.ok (invalidOriginal options (.start world)), .start world)
  | unreproduced {disposition state} (hbudget : budgetIsInvalid (budgetOf options) = false)
      (h : Opening options state) (hdisposition : disposition ≠ .reproduces) :
      Ends options (.ok (unreproduced options disposition state), state)
  | interrupted {message state} (h : Ledger options state) : Ends options (.error message, state)
  | concluded {audit state} (hbudget : budgetIsInvalid (budgetOf options) = false)
      (hids : ∀ item ∈ occurrences options, isActionId item.action.actionId = true)
      (h : AuditKept options audit state) (hstopped : Stopped audit) :
      Ends options (.ok (concludeAudit options audit state), state)

variable {ended : Minimized W}

theorem ends_minimizeReproduced {state : MinimizerState W}
    (hbudget : budgetIsInvalid (budgetOf options) = false)
    (hids : ∀ item ∈ occurrences options, isActionId item.action.actionId = true)
    (h : ReductionKept options
      ⟨occurrences options, min 2 (occurrences options).length, false, false⟩ state)
    (hrun : minimizeReproduced options fuel state = some ended) : Ends options ended := by
  rw [minimizeReproduced] at hrun
  cases hreduce : loop (reduceTurn options) fuel
      (⟨occurrences options, min 2 (occurrences options).length, false, false⟩, state) with
  | none =>
      rw [hreduce] at hrun
      contradiction
  | some reduced =>
      rw [hreduce] at hrun
      obtain ⟨hledger, hkept⟩ := loop_invariant
        (P := fun run : Reduction × MinimizerState W => ReductionKept options run.1 run.2)
        (Q := fun result : Except JsString Reduction × MinimizerState W =>
          Ledger options result.2 ∧ ∀ reduction, result.1 = .ok reduction →
            ReductionKept options reduction result.2)
        (fun _ _ hkept hturn => kept_reduceTurn hids hkept hturn)
        (fun _ _ hkept hturn => kept_reduceTurn_done hids hkept hturn) h hreduce
      obtain ⟨message | reduction, state'⟩ := reduced
      · cases hrun
        exact .interrupted hledger
      · dsimp only at hrun
        have hstart := hkept reduction rfl
        cases haudit : loop (auditTurn options) fuel
            (⟨reduction.current, true, [], reduction.budgetExhausted, reduction.reduced⟩, state') with
        | none =>
            rw [haudit] at hrun
            contradiction
        | some audited =>
            rw [haudit] at hrun
            obtain ⟨hledger, hkept⟩ := loop_invariant
              (P := fun run : Audit × MinimizerState W => AuditKept options run.1 run.2)
              (Q := fun result : Except JsString Audit × MinimizerState W =>
                Ledger options result.2 ∧ ∀ audit, result.1 = .ok audit →
                  AuditKept options audit result.2 ∧ Stopped audit)
              (fun _ _ hkept hturn => kept_auditTurn hids hkept hturn)
              (fun _ _ hkept hturn => kept_auditTurn_done hids hkept hturn)
              ⟨hstart.ledger, hstart.survives, hstart.complete,
                fun hfalse => absurd hfalse Bool.noConfusion⟩ haudit
            obtain ⟨message | audit, final⟩ := audited
            · cases hrun
              exact .interrupted hledger
            · cases hrun
              obtain ⟨hkept, hstopped⟩ := hkept audit rfl
              exact .concluded hbudget hids hkept hstopped

theorem ne_nil_of_not_isEmpty (h : ¬ options.originalSequence.isEmpty = true) :
    occurrences options ≠ [] := by
  intro hnil
  have hlength := length_occurrences options
  rw [hnil, List.length_nil] at hlength
  exact h (List.isEmpty_iff_length_eq_zero.mpr hlength.symm)

theorem ends_minimizeFailure {world : W}
    (hrun : minimizeFailure options fuel world = some ended) : Ends options ended := by
  rw [minimizeFailure] at hrun
  cases hbudget : budgetIsInvalid (budgetOf options) with
  | true =>
      rw [if_pos hbudget] at hrun
      cases hrun
      exact .threw (opening_start options world)
  | false =>
      rw [if_neg (by rw [hbudget]; exact Bool.false_ne_true)] at hrun
      by_cases hempty : options.originalSequence.isEmpty = true
      · rw [if_pos hempty] at hrun
        cases hrun
        exact .threw (opening_start options world)
      · rw [if_neg hempty] at hrun
        have hne := ne_nil_of_not_isEmpty hempty
        rcases hguard : guardSequence options world (occurrences options) with
          ⟨message | guard, world'⟩
        · rw [hguard] at hrun
          cases hrun
          exact .threw (opening_start options world')
        · rw [hguard] at hrun
          dsimp only at hrun
          cases hvalid : guard.valid with
          | false =>
              simp only [hvalid, Bool.not_false, if_true] at hrun
              cases hrun
              exact .invalidOriginal hbudget
          | true =>
              simp only [hvalid, Bool.not_true, Bool.false_eq_true, if_false] at hrun
              have hids := isActionId_of_guard hguard hvalid
              have hevaluates := evaluates_evaluate options (occurrences options) .freshExactReplay
                (.start world')
              generalize evaluate options (occurrences options) .freshExactReplay
                (.start world') = evaluated at hevaluates hrun
              obtain ⟨message | fresh, state⟩ := evaluated
              · cases hrun
                exact .threw (fresh_evaluate hids hne hevaluates).1
              · obtain ⟨hopening, hkept⟩ := fresh_evaluate hids hne hevaluates
                dsimp only at hrun
                by_cases hreproduces : fresh.evaluation.disposition = .reproduces
                · rw [if_neg (not_not.mpr hreproduces)] at hrun
                  exact ends_minimizeReproduced hbudget hids (hkept fresh rfl hreproduces) hrun
                · rw [if_pos hreproduces] at hrun
                  cases hrun
                  exact .unreproduced hbudget hopening hreproduces

theorem minimizeReproduced_mono {more : Nat} {state : MinimizerState W}
    (h : minimizeReproduced options fuel state = some ended) (hle : fuel ≤ more) :
    minimizeReproduced options more state = some ended := by
  rw [minimizeReproduced] at h ⊢
  cases hreduce : loop (reduceTurn options) fuel
      (⟨occurrences options, min 2 (occurrences options).length, false, false⟩, state) with
  | none =>
      rw [hreduce] at h
      contradiction
  | some reduced =>
      rw [loop_mono hreduce hle]
      rw [hreduce] at h
      obtain ⟨message | reduction, state'⟩ := reduced
      · exact h
      · dsimp only at h ⊢
        cases haudit : loop (auditTurn options) fuel
            (⟨reduction.current, true, [], reduction.budgetExhausted, reduction.reduced⟩, state') with
        | none =>
            rw [haudit] at h
            contradiction
        | some audited =>
            rw [loop_mono haudit hle]
            rw [haudit] at h
            exact h

theorem exists_minimizeReproduced (hne : occurrences options ≠ []) (state : MinimizerState W) :
    ∃ fuel ended, minimizeReproduced options fuel state = some ended := by
  have hlength : 0 < (occurrences options).length := List.length_pos_iff.mpr hne
  have hbounded : ReductionBounded (occurrences options).length
      (⟨occurrences options, min 2 (occurrences options).length, false, false⟩, state) :=
    ⟨Nat.le_refl _, by dsimp only; omega⟩
  obtain ⟨fuel, ⟨result, state'⟩, hreduce⟩ := exists_loop
    (fun _ _ hs hturn => reduceTurn_decreases options hs hturn) hbounded
  cases result with
  | error message =>
      refine ⟨fuel, (.error message, state'), ?_⟩
      rw [minimizeReproduced, hreduce]
  | ok reduction =>
      obtain ⟨fuel', ⟨result', final⟩, haudit⟩ := exists_loop (P := fun _ => True)
        (fun _ _ _ hturn => ⟨True.intro, auditTurn_decreases options hturn⟩)
        (s := (⟨reduction.current, true, [], reduction.budgetExhausted, reduction.reduced⟩, state'))
        True.intro
      have hreduce' := loop_mono hreduce (Nat.le_max_left fuel fuel')
      have haudit' := loop_mono haudit (Nat.le_max_right fuel fuel')
      cases result' with
      | error message =>
          refine ⟨max fuel fuel', (.error message, final), ?_⟩
          rw [minimizeReproduced, hreduce']
          dsimp only
          rw [haudit']
      | ok audit =>
          refine ⟨max fuel fuel', (.ok (concludeAudit options audit final), final), ?_⟩
          rw [minimizeReproduced, hreduce']
          dsimp only
          rw [haudit']

theorem exists_minimizeFailure (options : MinimizationOptions W) (world : W) :
    ∃ enough ended, ∀ fuel, enough ≤ fuel → minimizeFailure options fuel world = some ended := by
  by_cases hbudget : budgetIsInvalid (budgetOf options) = true
  · refine ⟨0, (.error "MINIMIZATION_BUDGET_INVALID".toList, .start world), ?_⟩
    intro fuel _
    rw [minimizeFailure, if_pos hbudget]
  · by_cases hempty : options.originalSequence.isEmpty = true
    · refine ⟨0, (.error "MINIMIZATION_ORIGINAL_SEQUENCE_EMPTY".toList, .start world), ?_⟩
      intro fuel _
      rw [minimizeFailure, if_neg hbudget, if_pos hempty]
    · rcases hguard : guardSequence options world (occurrences options) with
        ⟨message | guard, world'⟩
      · refine ⟨0, (.error message, .start world'), ?_⟩
        intro fuel _
        rw [minimizeFailure, if_neg hbudget, if_neg hempty, hguard]
      · by_cases hvalid : guard.valid = true
        · rcases hfresh : evaluate options (occurrences options) .freshExactReplay
            (.start world') with ⟨message | fresh, state⟩
          · refine ⟨0, (.error message, state), ?_⟩
            intro fuel _
            rw [minimizeFailure, if_neg hbudget, if_neg hempty, hguard]
            simp [hvalid, hfresh]
          · by_cases hreproduces : fresh.evaluation.disposition = .reproduces
            · obtain ⟨enough, ended, hended⟩ :=
                exists_minimizeReproduced (ne_nil_of_not_isEmpty hempty) state
              refine ⟨enough, ended, ?_⟩
              intro fuel hle
              rw [minimizeFailure, if_neg hbudget, if_neg hempty, hguard]
              simpa [hvalid, hfresh, hreproduces] using minimizeReproduced_mono hended hle
            · refine ⟨0, (.ok (unreproduced options fresh.evaluation.disposition state), state), ?_⟩
              intro fuel _
              rw [minimizeFailure, if_neg hbudget, if_neg hempty, hguard]
              simp [hvalid, hfresh, hreproduces]
        · refine ⟨0, (.ok (invalidOriginal options (.start world')), .start world'), ?_⟩
          intro fuel _
          rw [minimizeFailure, if_neg hbudget, if_neg hempty, hguard]
          simp [hvalid]

section Survivors

variable {audit : Audit} {state : MinimizerState W}

theorem evidence_of_judged (h : Ledger options state) {candidate : List ActionOccurrence}
    {disposition : EvaluationDisposition} (hsub : List.Sublist candidate (occurrences options))
    (hjudged : Judged state candidate disposition) :
    Evidence options state candidate disposition := by
  obtain ⟨e, hknown, rfl⟩ := hjudged
  exact h.records.evidence candidate e hsub hknown

/-- The audit has finished its last pass with every deletion exercised. -/
def Proven (audit : Audit) : Prop :=
  audit.budgetExhausted = false ∧ survivorDeletionsFullyExercised audit = true

theorem deletions_judged (h : AuditKept options audit state) (hstopped : Stopped audit)
    (hproven : Proven audit) (hlength : 2 ≤ audit.current.length) :
    ∀ i < audit.current.length, Judged state (audit.current.eraseIdx i) .doesNotReproduce := by
  obtain ⟨hbudget, hexercised⟩ := hproven
  have hchanged : audit.changedInAudit = false := by
    by_contra hchanged
    exact hstopped ⟨by simpa using hchanged, hbudget, hlength⟩
  have hall : ∀ disposition ∈ audit.finalPassDispositions, disposition = .doesNotReproduce := by
    have hnot : ¬ audit.current.length = 1 := by omega
    simp only [survivorDeletionsFullyExercised, hnot, decide_false, Bool.false_or,
      Bool.and_eq_true, List.all_eq_true, decide_eq_true_eq] at hexercised
    exact hexercised.2
  intro i hi
  have hmem : audit.current.eraseIdx i ∈ singleDeletions audit.current :=
    List.mem_map_of_mem (List.mem_range.mpr hi)
  obtain ⟨disposition, hdisposition, hjudged⟩ :=
    OneShot.exists_of_mem_left (h.judged hchanged hbudget) hmem
  rw [hall disposition hdisposition] at hjudged
  exact hjudged

theorem exists_reduced_nonRepro (h : Ledger options state) {candidate : List ActionOccurrence}
    (hrecorded : Recorded state.evaluations candidate .doesNotReproduce) :
    (state.evaluations.drop 1).any (·.disposition = .doesNotReproduce) = true := by
  obtain ⟨first, rest, hfirst, hreproduces, -⟩ := h.records.original
  obtain ⟨evaluation, hmem, -, -, hdisposition⟩ := hrecorded
  rw [hfirst] at hmem
  rw [hfirst, List.any_eq_true]
  rcases List.mem_cons.mp hmem with rfl | hrest
  · rw [hdisposition] at hreproduces
    contradiction
  · exact ⟨evaluation, hrest, by simpa using hdisposition⟩

theorem reducedReplayInvocations_pos (h : Ledger options state)
    {candidate : List ActionOccurrence} {disposition : EvaluationDisposition}
    (hexercised : Exercised options state candidate disposition)
    (hshorter : candidate.length < (occurrences options).length) :
    0 < state.reducedReplayInvocations := by
  obtain ⟨first, rest, hfirst, horiginal, -⟩ := h.replays.original
  obtain ⟨invocation, hmem, hsequence, -⟩ := hexercised
  have hreduced := h.replays.reduced
  rw [hfirst] at hmem hreduced
  rcases List.mem_cons.mp hmem with rfl | hrest
  · rw [← hsequence, horiginal] at hshorter
    exact absurd hshorter (Nat.lt_irrefl _)
  · have hpos := List.length_pos_of_mem hrest
    rw [List.length_cons] at hreduced
    omega

theorem evidenceClass_iff (h : AuditKept options audit state) (hstopped : Stopped audit) :
    (concludeAudit options audit state).reductionEvidenceClass = .minimalityProven ↔
      Proven audit ∧ 2 ≤ audit.current.length := by
  have hne : 0 < audit.current.length := List.length_pos_iff.mpr h.survives.nonempty
  have hle := h.survives.sublist.length_le
  constructor
  · intro hclass
    simp only [concludeAudit, resultBase, classifyReductionEvidence] at hclass
    split_ifs at hclass with hfresh hbudget hlength hgenuine hexercised hcount
    simp only [Bool.or_eq_true, decide_eq_true_eq, not_or] at hlength
    exact ⟨⟨by simpa using hbudget, by simpa using hexercised⟩, by omega⟩
  · rintro ⟨hproven, hlength⟩
    have hjudged := deletions_judged h hstopped hproven hlength 0 hne
    have hshorter : (audit.current.eraseIdx 0).length < (occurrences options).length := by
      rw [List.length_eraseIdx_of_lt hne]
      omega
    have hevidence := evidence_of_judged h.ledger
      ((List.eraseIdx_sublist ..).trans h.survives.sublist) hjudged
    have hgenuine := exists_reduced_nonRepro h.ledger hevidence.recorded
    have hcount := reducedReplayInvocations_pos h.ledger (hevidence.exercised (Or.inr rfl)) hshorter
    have honeOriginal : ¬ (occurrences options).length = 1 := by omega
    have honeFinal : ¬ audit.current.length = 1 := by omega
    have hnone : ¬ state.reducedReplayInvocations < 1 := by omega
    simp only [concludeAudit, resultBase, classifyReductionEvidence, hproven.1, hproven.2,
      hgenuine, honeOriginal, honeFinal, hnone, Bool.not_true, Bool.false_eq_true, if_false,
      decide_false, Bool.or_false, if_true]

theorem guarantee_iff : (concludeAudit options audit state).minimalityGuarantee = .oneMinimal ↔
    Proven audit := by
  simp only [concludeAudit, resultBase, Proven, decide_true, if_true]
  cases audit.budgetExhausted with
  | true => simp
  | false =>
      cases survivorDeletionsFullyExercised audit with
      | true => simp
      | false => simp

end Survivors

/-- The survivor of a reproduced run was replayed and reproduced; if it is called minimal,
the callback was called on each of its single deletions, which did not reproduce; and the
evidence class says so exactly then. -/
theorem survivor_supported {fuel : Nat} {world : W} {result : MinimizationResult}
    {state : MinimizerState W}
    (hrun : minimizeFailure options fuel world = some (.ok result, state))
    (hfresh : result.freshExactReplay = .reproduced) :
    (∀ invocation ∈ state.invocations, Called options invocation) ∧
      ∃ survivor, survivor ≠ [] ∧ List.Sublist survivor (occurrences options) ∧
        result.minimalReproducingSequence = actionIds survivor ∧
        result.minimalReproducingOccurrenceOrdinals = some (occurrenceOrdinals survivor) ∧
        Exercised options state survivor .reproduces ∧
        Recorded result.candidateEvaluations survivor .reproduces ∧
        (result.minimalityGuarantee = .oneMinimal → 2 ≤ survivor.length → ∀ i < survivor.length,
            Exercised options state (survivor.eraseIdx i) .doesNotReproduce ∧
              Recorded result.candidateEvaluations (survivor.eraseIdx i) .doesNotReproduce) ∧
        (result.reductionEvidenceClass = .minimalityProven ↔
          result.minimalityGuarantee = .oneMinimal ∧ 2 ≤ survivor.length) := by
  have hends := ends_minimizeFailure hrun
  cases hends with
  | invalidOriginal => contradiction
  | @unreproduced disposition _ hbudget hopening hdisposition =>
      simp only [unreproduced, resultBase] at hfresh
      split_ifs at hfresh
  | @concluded audit _ hbudget hids h hstopped =>
      refine ⟨h.ledger.replays.called, audit.current, h.survives.nonempty, h.survives.sublist, rfl,
        rfl, ?_, ?_, ?_, ?_⟩
      · exact (evidence_of_judged h.ledger h.survives.sublist h.survives.reproduces).exercised
          (Or.inl rfl)
      · exact (evidence_of_judged h.ledger h.survives.sublist h.survives.reproduces).recorded
      · intro hguarantee hlength i hi
        have hevidence := evidence_of_judged h.ledger
          ((List.eraseIdx_sublist ..).trans h.survives.sublist)
          (deletions_judged h hstopped (guarantee_iff.mp hguarantee) hlength i hi)
        exact ⟨hevidence.exercised (Or.inr rfl), hevidence.recorded⟩
      · rw [evidenceClass_iff h hstopped, guarantee_iff]

def sampleAction (id : JsString) : MinimizationAction where
  actionId := id
  semanticClass := .knownRead
  routeClass := "/items".toList
  sourceApproved := true
  catalogVersion := "catalog.v1".toList
  preconditionKey := none

def passOutcome : CandidateReplayOutcome where
  status := .pass
  anomalyFingerprint := none
  semanticFindingFingerprint := none
  semanticContractIdentity := none
  safety := zeroSafety
  invalidReason := none
  executorFailure := none
  routeClass := none

def failureOutcome : CandidateReplayOutcome :=
  { passOutcome with status := .failure, anomalyFingerprint := some "fingerprint".toList }

def pairOptions (budget : MinimizationBudget) : MinimizationOptions Unit where
  originalSequence := [sampleAction "open".toList, sampleAction "submit".toList]
  anomalyFingerprint := "fingerprint".toList
  sourceVersion := "source.v1".toList
  catalogVersion := "catalog.v1".toList
  approvedActionIds := none
  safeActionCatalog := none
  safety := none
  budget := some budget
  preconditionCheck := none
  replay _ sequence _ := (some (if sequence.length = 2 then failureOutcome else passOutcome), ())

theorem exists_result {α : Type} (options : MinimizationOptions W) (fuel : Nat) (world : W)
    (read : MinimizationResult → α) (a : α)
    (h : ((minimizeFailure options fuel world).bind fun ended => ended.1.toOption).map read =
      some a) : ∃ result state, minimizeFailure options fuel world = some (.ok result, state) ∧
      read result = a := by
  rcases hrun : minimizeFailure options fuel world with _ | ⟨message | result, state⟩
  · rw [hrun] at h
    contradiction
  · rw [hrun] at h
    contradiction
  · rw [hrun] at h
    exact ⟨result, state, rfl, Option.some.inj h⟩

theorem sample_survivor_supported : ∃ result state,
    minimizeFailure (pairOptions realDevMinimizationBudget) 10 () = some (.ok result, state) ∧
      result.reductionEvidenceClass = .minimalityProven ∧
      ∃ survivor, Exercised (pairOptions realDevMinimizationBudget) state survivor .reproduces ∧
        result.minimalReproducingSequence = actionIds survivor := by
  obtain ⟨result, state, hrun, hread⟩ := exists_result (pairOptions realDevMinimizationBudget) 10 ()
    (fun result => (result.freshExactReplay, result.reductionEvidenceClass))
    (.reproduced, .minimalityProven) (by decide +kernel)
  obtain ⟨hfresh, hclass⟩ := Prod.mk.inj hread
  obtain ⟨-, survivor, -, -, hsequence, -, hexercised, -⟩ := survivor_supported hrun hfresh
  exact ⟨result, state, hrun, hclass, survivor, hexercised, hsequence⟩

end NightWatch.Triage.MinimizerRuns
