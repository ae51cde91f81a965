import NightWatch.Triage.Minimizer

namespace NightWatch.Triage.CandidateLedger

open Lib.JsText Lib.JsData Triage.Types Triage.Minimizer

theorem eq_of_map_eq {α β : Type} {f : α → β} {as bs : List α}
    (hf : ∀ a ∈ as, ∀ b ∈ bs, f a = f b → a = b) (h : as.map f = bs.map f) : as = bs := by
  rw [← List.forall₂_eq_eq_eq, List.forall₂_map_left_iff, List.forall₂_map_right_iff] at h
  obtain ⟨hlength, hzip⟩ := List.forall₂_iff_zip.mp h
  rw [← List.forall₂_eq_eq_eq]
  refine List.forall₂_iff_zip.mpr ⟨hlength, fun hmem => ?_⟩
  exact hf _ (List.of_mem_zip hmem).1 _ (List.of_mem_zip hmem).2 (hzip hmem)

section Keys

variable {W : Type} {options : MinimizationOptions W} {a b item : ActionOccurrence}
  {sequence : List ActionOccurrence}

theorem getElem?_of_mem_occurrences (h : item ∈ occurrences options) :
    options.originalSequence[item.index]? = some item.action := by
  rw [occurrences, List.mem_mapIdx] at h
  obtain ⟨i, hi, rfl⟩ := h
  exact List.getElem?_eq_getElem hi

theorem eq_of_index_eq (ha : a ∈ occurrences options)
    (hb : b ∈ occurrences options) (h : a.index = b.index) : a = b := by
  have hsame := getElem?_of_mem_occurrences ha
  rw [h, getElem?_of_mem_occurrences hb] at hsame
  obtain ⟨index, action⟩ := a
  obtain ⟨index', action'⟩ := b
  cases h
  exact congrArg _ (Option.some.inj hsame).symm

theorem length_occurrences (options : MinimizationOptions W) :
    (occurrences options).length = options.originalSequence.length :=
  List.length_mapIdx

variable {as bs : List ActionOccurrence}

theorem eq_of_ordinals_eq
    (ha : List.Sublist as (occurrences options)) (hb : List.Sublist bs (occurrences options))
    (h : occurrenceOrdinals as = occurrenceOrdinals bs) : as = bs :=
  eq_of_map_eq (fun _ hmem _ hmem' => eq_of_index_eq (ha.subset hmem) (hb.subset hmem')) h

def keyPiece (item : ActionOccurrence) : JsString := decimal item.index ++ ':' :: item.action.actionId

theorem not_mem_keyPiece (hid : isActionId item.action.actionId = true) : '>' ∉ keyPiece item := by
  intro hmem
  rw [keyPiece, List.mem_append, List.mem_cons] at hmem
  rcases hmem with hmem | heq | hmem
  · exact absurd (isDigit_of_mem_decimal hmem) (by decide)
  · exact absurd heq (by decide)
  · exact absurd ((upTo_iff.mp hid).2.1 _ hmem) (by decide)

theorem index_of_keyPiece_eq (h : keyPiece a = keyPiece b) : a.index = b.index := by
  have hcolon : ∀ n, ':' ∉ decimal n := by
    intro n hmem
    exact absurd (isDigit_of_mem_decimal hmem) (by decide)
  have hsplit := congrArg (splitFirst ':') h
  rw [keyPiece, keyPiece, splitFirst_append (hcolon _), splitFirst_append (hcolon _)] at hsplit
  exact decimal_injective (Prod.mk.inj (Option.some.inj hsplit)).1

theorem splitOn_sequenceKey (hne : sequence ≠ [])
    (hids : ∀ item ∈ sequence, isActionId item.action.actionId = true) :
    (sequenceKey sequence).splitOn '>' = sequence.map keyPiece := by
  apply List.splitOn_intercalate
  · intro piece hpiece
    obtain ⟨item, hitem, rfl⟩ := List.mem_map.mp hpiece
    exact not_mem_keyPiece (hids item hitem)
  · simpa using hne

theorem sequenceKey_ne_nil (hne : sequence ≠ []) : sequenceKey sequence ≠ [] := by
  obtain ⟨item, rest, rfl⟩ := List.exists_cons_of_ne_nil hne
  intro h
  cases rest with
  | nil => simp [sequenceKey, join] at h
  | cons other rest => simp [sequenceKey, join, List.intercalate_cons_cons] at h

theorem sequenceKey_injective
    (hids : ∀ item ∈ occurrences options, isActionId item.action.actionId = true)
    (ha : List.Sublist as (occurrences options))
    (hb : List.Sublist bs (occurrences options)) (h : sequenceKey as = sequenceKey bs) :
    as = bs := by
  by_cases hna : as = []
  · subst hna
    by_contra hne
    exact sequenceKey_ne_nil (Ne.symm hne) h.symm
  · by_cases hnb : bs = []
    · subst hnb
      exact absurd h (sequenceKey_ne_nil hna)
    · have hpieces := congrArg (List.splitOn '>') h
      rw [splitOn_sequenceKey hna fun item hitem => hids item (ha.subset hitem),
        splitOn_sequenceKey hnb fun item hitem => hids item (hb.subset hitem)] at hpieces
      apply eq_of_map_eq _ hpieces
      intro a hmem b hmem' hpiece
      exact eq_of_index_eq (ha.subset hmem) (hb.subset hmem') (index_of_keyPiece_eq hpiece)

end Keys

variable {W : Type}

def known (state : MinimizerState W) (candidate : List ActionOccurrence) :
    Option EvaluatedCandidate :=
  state.cache.lookup (sequenceKey candidate)

section Evaluation

variable (options : MinimizationOptions W) (candidate : List ActionOccurrence) (phase : ReplayPhase)
  (state : MinimizerState W)

/-- The candidate budget has room for a reduced candidate. -/
def Room : Prop :=
  phase = .reducedCandidate → (JsNumber.ofNat state.candidateEvaluations).ge
    (budgetOf options).maxCandidateEvaluations = false

/-- What an evaluation does: it finds the candidate in the cache, its guard throws, the budget
excludes it, the guard rejects it, or it is replayed. -/
inductive Evaluates : Except JsString EvaluatedCandidate → MinimizerState W → Prop
  | cached {e : EvaluatedCandidate} (h : known state candidate = some e) : Evaluates (.ok e) state
  | threw {message : JsString} {world : W} (hnew : known state candidate = none) :
      Evaluates (.error message) { state with world := world }
  | skipped {reason : JsString} {counted : Nat} {world : W} (hnew : known state candidate = none)
      (hcounted : counted = state.candidateEvaluations ∨
        counted = state.candidateEvaluations + ReplayPhase.reducedOne phase ∧
          Room options phase state) :
      Evaluates (.ok (skippedCandidate candidate reason))
        { state with
          candidateEvaluations := counted
          evaluations := state.evaluations ++ [(skippedCandidate candidate reason).evaluation]
          world := world }
  | rejected {guard : CandidateGuardResult} {world : W} (hnew : known state candidate = none)
      (hroom : Room options phase state) :
      Evaluates (.ok (rejectedCandidate candidate guard))
        (store candidate (rejectedCandidate candidate guard)
          { state with
            candidateEvaluations := state.candidateEvaluations + ReplayPhase.reducedOne phase
            invalidCandidateCount := state.invalidCandidateCount + ReplayPhase.reducedOne phase
            world := world })
  | replayed {guard : CandidateGuardResult} {guarded world : W}
      {returned : Option CandidateReplayOutcome} (hnew : known state candidate = none)
      (hroom : Room options phase state)
      (hguard : guardSequence options state.world candidate = (.ok guard, guarded))
      (hvalid : guard.valid = true)
      (hbudget : (JsNumber.ofNat state.replayCount).ge (budgetOf options).maxTotalReplays = false)
      (hreplay : options.replay guarded (candidate.map (·.action)) phase = (returned, world)) :
      Evaluates (.ok (replayedCandidate options candidate returned))
        (bookReplay options candidate phase state.world returned
          { state with
            candidateEvaluations := state.candidateEvaluations + ReplayPhase.reducedOne phase
            world := world })

theorem evaluates_evaluate :
    Evaluates options candidate phase state (evaluate options candidate phase state).1
      (evaluate options candidate phase state).2 := by
  unfold evaluate
  cases hnew : state.cache.lookup (sequenceKey candidate) with
  | some cached => exact .cached hnew
  | none =>
      dsimp only
      split_ifs with hfull
      · exact .skipped hnew (Or.inl rfl)
      · have hroom : Room options phase state := by
          rintro rfl
          simpa using hfull
        rcases hguard : guardSequence options state.world candidate with ⟨message | guard, world⟩
        · exact .threw hnew
        · dsimp only
          rw [evaluateGuarded]
          dsimp only
          split_ifs with hvalid hbudget
          · exact .rejected hnew hroom
          · exact .skipped hnew (Or.inr ⟨rfl, hroom⟩)
          · exact .replayed hnew hroom hguard (by simpa using hvalid) (by simpa using hbudget) rfl

end Evaluation

/-- The guards admitted the candidate of a call, and the callback returned what is noted. -/
def Called (options : MinimizationOptions W) (invocation : Invocation W) : Prop :=
  ∃ guard world after,
    guardSequence options invocation.before invocation.sequence = (.ok guard, world) ∧
      guard.valid = true ∧
      options.replay world (invocation.sequence.map (·.action)) invocation.phase =
        (invocation.returned, after)

/-- A nonempty proper part of the original, in its order. -/
structure Proper (options : MinimizationOptions W) (candidate : List ActionOccurrence) : Prop where
  nonempty : candidate ≠ []
  sublist : List.Sublist candidate (occurrences options)
  shorter : candidate.length < (occurrences options).length

/-- The callback was called on the candidate, and what it returned has the disposition. -/
def Exercised (options : MinimizationOptions W) (state : MinimizerState W)
    (candidate : List ActionOccurrence) (disposition : EvaluationDisposition) : Prop :=
  ∃ invocation ∈ state.invocations, invocation.sequence = candidate ∧
    (replayedCandidate options candidate invocation.returned).evaluation.disposition = disposition

/-- A record of the candidate with the disposition. -/
def Recorded (evaluations : List CandidateEvaluation) (candidate : List ActionOccurrence)
    (disposition : EvaluationDisposition) : Prop :=
  ∃ evaluation ∈ evaluations, evaluation.sequence = actionIds candidate ∧
    evaluation.occurrenceOrdinals = occurrenceOrdinals candidate ∧
    evaluation.disposition = disposition

/-- What stands behind an evaluation: a record, and a call if it tells whether the
candidate reproduces. -/
structure Evidence (options : MinimizationOptions W) (state : MinimizerState W)
    (candidate : List ActionOccurrence) (disposition : EvaluationDisposition) : Prop where
  recorded : Recorded state.evaluations candidate disposition
  evaluated : disposition ≠ .notEvaluatedBudget
  exercised : disposition = .reproduces ∨ disposition = .doesNotReproduce →
    Exercised options state candidate disposition

/-- The calls of the callback so far, after the original has been replayed. -/
structure Replays (options : MinimizationOptions W) (state : MinimizerState W) : Prop where
  original : ∃ first rest, state.invocations = first :: rest ∧
    first.sequence = occurrences options ∧ first.phase = .freshExactReplay ∧
    ∀ invocation ∈ rest, invocation.phase = .reducedCandidate ∧ Proper options invocation.sequence
  called : ∀ invocation ∈ state.invocations, Called options invocation
  once : (state.invocations.map (·.sequence)).Nodup
  count : state.replayCount = state.invocations.length
  reduced : state.reducedReplayInvocations + 1 = state.invocations.length
  within : Within state.replayCount (budgetOf options).maxTotalReplays
  cached : ∀ invocation ∈ state.invocations, (known state invocation.sequence).isSome = true

/-- The records so far, after the original has reproduced. -/
structure Records (options : MinimizationOptions W) (state : MinimizerState W) : Prop where
  evidence : ∀ candidate e, List.Sublist candidate (occurrences options) →
    known state candidate = some e → Evidence options state candidate e.evaluation.disposition
  placed : ∀ evaluation ∈ state.evaluations, ∃ candidate, candidate ≠ [] ∧
    List.Sublist candidate (occurrences options) ∧ evaluation.sequence = actionIds candidate ∧
    evaluation.occurrenceOrdinals = occurrenceOrdinals candidate
  original : ∃ first rest, state.evaluations = first :: rest ∧ first.disposition = .reproduces ∧
    first.occurrenceOrdinals = occurrenceOrdinals (occurrences options)
  distinct : (state.evaluations.map (·.occurrenceOrdinals)).Nodup
  counted : (state.evaluations.filter (·.disposition ≠ .notEvaluatedBudget)).length ≤
    state.candidateEvaluations + 1
  within : Within state.candidateEvaluations (budgetOf options).maxCandidateEvaluations

structure Ledger (options : MinimizationOptions W) (state : MinimizerState W) : Prop where
  replays : Replays options state
  records : Records options state

/-- Every record is of a cached candidate: the budget has excluded none so far. -/
def Complete (options : MinimizationOptions W) (state : MinimizerState W) : Prop :=
  ∀ evaluation ∈ state.evaluations, ∃ candidate, List.Sublist candidate (occurrences options) ∧
    evaluation.occurrenceOrdinals = occurrenceOrdinals candidate ∧
    (known state candidate).isSome = true

/-- What is cached stays cached. -/
def Extends (state state' : MinimizerState W) : Prop :=
  ∀ candidate e, known state candidate = some e → known state' candidate = some e

/-- An evaluation of a new candidate has been stored. -/
structure Stored (state state' : MinimizerState W) (candidate : List ActionOccurrence)
    (e : EvaluatedCandidate) : Prop where
  evaluations : state'.evaluations = state.evaluations ++ [e.evaluation]
  cache : state'.cache = mapSet (sequenceKey candidate) e state.cache
  invocations : state.invocations ⊆ state'.invocations
  new : known state candidate = none

section Steps

variable {options : MinimizationOptions W} {candidate : List ActionOccurrence}
  {phase : ReplayPhase} {state state' : MinimizerState W} {e : EvaluatedCandidate}

theorem Stored.known_eq (h : Stored state state' candidate e) (other : List ActionOccurrence) :
    known state' other =
      if sequenceKey other = sequenceKey candidate then some e else known state other := by
  rw [known, h.cache, lookup_mapSet, known]

theorem Stored.known_self (h : Stored state state' candidate e) :
    known state' candidate = some e := by
  rw [h.known_eq, if_pos rfl]

theorem Stored.extends (h : Stored state state' candidate e) : Extends state state' := by
  intro other e' hother
  have hkey : sequenceKey other ≠ sequenceKey candidate := by
    intro hkey
    have hnone := h.new
    rw [known, ← hkey] at hnone
    exact Option.some_ne_none _ (hother.symm.trans hnone)
  rw [h.known_eq, if_neg hkey, hother]

theorem Extends.refl (state : MinimizerState W) : Extends state state := fun _ _ h => h

theorem Extends.trans {state'' : MinimizerState W} (h : Extends state state')
    (h' : Extends state' state'') : Extends state state'' :=
  fun candidate e hknown => h' candidate e (h candidate e hknown)

variable {other : List ActionOccurrence}

theorem Extends.isSome (h : Extends state state')
    (hother : (known state other).isSome = true) : (known state' other).isSome = true := by
  obtain ⟨e, he⟩ := Option.isSome_iff_exists.mp hother
  rw [h other e he, Option.isSome_some]

variable {disposition : EvaluationDisposition}

theorem Exercised.mono (h : Exercised options state candidate disposition)
    (hsub : state.invocations ⊆ state'.invocations) :
    Exercised options state' candidate disposition := by
  obtain ⟨invocation, hmem, hrest⟩ := h
  exact ⟨invocation, hsub hmem, hrest⟩

theorem Evidence.mono (h : Evidence options state candidate disposition)
    (hevaluations : state.evaluations ⊆ state'.evaluations)
    (hinvocations : state.invocations ⊆ state'.invocations) :
    Evidence options state' candidate disposition := by
  obtain ⟨evaluation, hmem, hrest⟩ := h.recorded
  exact ⟨⟨evaluation, hevaluations hmem, hrest⟩, h.evaluated,
    fun hgenuine => (h.exercised hgenuine).mono hinvocations⟩

theorem Complete.not_recorded (h : Complete options state) (hnew : known state candidate = none)
    (hsub : List.Sublist candidate (occurrences options)) :
    occurrenceOrdinals candidate ∉ state.evaluations.map (·.occurrenceOrdinals) := by
  intro hmem
  obtain ⟨evaluation, hevaluation, hordinals⟩ := List.mem_map.mp hmem
  obtain ⟨other, hother, hsame, hknown⟩ := h evaluation hevaluation
  rw [eq_of_ordinals_eq hother hsub (hsame.symm.trans hordinals), hnew] at hknown
  contradiction

theorem Complete.stored (h : Complete options state) (hstored : Stored state state' candidate e)
    (hsub : List.Sublist candidate (occurrences options))
    (hordinals : e.evaluation.occurrenceOrdinals = occurrenceOrdinals candidate) :
    Complete options state' := by
  intro evaluation hevaluation
  rw [hstored.evaluations] at hevaluation
  rcases List.mem_append.mp hevaluation with hold | hlast
  · obtain ⟨other, hother, hsame, hknown⟩ := h evaluation hold
    exact ⟨other, hother, hsame, hstored.extends.isSome hknown⟩
  · rw [List.mem_singleton.mp hlast]
    refine ⟨candidate, hsub, hordinals, ?_⟩
    rw [hstored.known_self, Option.isSome_some]

theorem evidence_stored
    (hids : ∀ item ∈ occurrences options, isActionId item.action.actionId = true)
    (h : ∀ other e', List.Sublist other (occurrences options) → known state other = some e' →
      Evidence options state other e'.evaluation.disposition)
    (hstored : Stored state state' candidate e)
    (hsub : List.Sublist candidate (occurrences options))
    (hnew : Evidence options state' candidate e.evaluation.disposition) {e' : EvaluatedCandidate}
    (hother : List.Sublist other (occurrences options)) (hknown : known state' other = some e') :
    Evidence options state' other e'.evaluation.disposition := by
  rw [hstored.known_eq] at hknown
  split_ifs at hknown with hkey
  · cases hknown
    rw [sequenceKey_injective hids hother hsub hkey]
    exact hnew
  · apply (h other e' hother hknown).mono _ hstored.invocations
    rw [hstored.evaluations]
    exact List.subset_append_left _ _

theorem Records.append (h : Records options state) (hcomplete : Complete options state)
    (hproper : Proper options candidate) (hnew : known state candidate = none)
    {evaluation : CandidateEvaluation}
    (hevaluations : state'.evaluations = state.evaluations ++ [evaluation])
    (hsequence : evaluation.sequence = actionIds candidate)
    (hordinals : evaluation.occurrenceOrdinals = occurrenceOrdinals candidate)
    (hcounted : state.candidateEvaluations +
      (if evaluation.disposition ≠ .notEvaluatedBudget then 1 else 0) ≤ state'.candidateEvaluations)
    (hwithin : Within state'.candidateEvaluations (budgetOf options).maxCandidateEvaluations)
    (hevidence : ∀ other e', List.Sublist other (occurrences options) →
      known state' other = some e' → Evidence options state' other e'.evaluation.disposition) :
    Records options state' where
  evidence := hevidence
  placed := by
    intro other hother
    rw [hevaluations] at hother
    rcases List.mem_append.mp hother with hold | hlast
    · exact h.placed other hold
    · rw [List.mem_singleton.mp hlast]
      exact ⟨candidate, hproper.nonempty, hproper.sublist, hsequence, hordinals⟩
  original := by
    obtain ⟨first, rest, hfirst, hrest⟩ := h.original
    exact ⟨first, rest ++ [evaluation], by rw [hevaluations, hfirst, List.cons_append], hrest⟩
  distinct := by
    rw [hevaluations, List.map_append, List.map_singleton, hordinals, ← List.concat_eq_append]
    exact h.distinct.concat (hcomplete.not_recorded hnew hproper.sublist)
  counted := by
    have hold := h.counted
    have hlast : ([evaluation].filter (·.disposition ≠ .notEvaluatedBudget)).length =
        if evaluation.disposition ≠ .notEvaluatedBudget then 1 else 0 := by
      by_cases hskipped : evaluation.disposition = .notEvaluatedBudget
      · simp [hskipped]
      · simp [hskipped]
    rw [hevaluations, List.filter_append, List.length_append, hlast]
    omega
  within := hwithin

theorem Replays.congr (h : Replays options state)
    (hinvocations : state'.invocations = state.invocations)
    (hcount : state'.replayCount = state.replayCount)
    (hreduced : state'.reducedReplayInvocations = state.reducedReplayInvocations)
    (hextends : Extends state state') : Replays options state' where
  original := hinvocations ▸ h.original
  called := hinvocations ▸ h.called
  once := hinvocations ▸ h.once
  count := by rw [hcount, hinvocations, h.count]
  reduced := by rw [hreduced, hinvocations, h.reduced]
  within := hcount ▸ h.within
  cached := by
    intro invocation hmem
    rw [hinvocations] at hmem
    exact hextends.isSome (h.cached invocation hmem)

theorem Replays.append (h : Replays options state) (hproper : Proper options candidate)
    {invocation : Invocation W} (hsequence : invocation.sequence = candidate)
    (hphase : invocation.phase = .reducedCandidate) (hcalled : Called options invocation)
    (hstored : Stored state state' candidate e)
    (hinvocations : state'.invocations = state.invocations ++ [invocation])
    (hcount : state'.replayCount = state.replayCount + 1)
    (hreduced : state'.reducedReplayInvocations = state.reducedReplayInvocations + 1)
    (hbudget : (JsNumber.ofNat state.replayCount).ge (budgetOf options).maxTotalReplays = false) :
    Replays options state' where
  original := by
    obtain ⟨first, rest, hfirst, hsame, hfresh, hrest⟩ := h.original
    refine ⟨first, rest ++ [invocation], by rw [hinvocations, hfirst, List.cons_append], hsame,
      hfresh, ?_⟩
    intro other hother
    rcases List.mem_append.mp hother with hold | hlast
    · exact hrest other hold
    · rw [List.mem_singleton.mp hlast, hsequence]
      exact ⟨hphase, hproper⟩
  called := by
    intro other hother
    rw [hinvocations] at hother
    rcases List.mem_append.mp hother with hold | hlast
    · exact h.called other hold
    · rw [List.mem_singleton.mp hlast]
      exact hcalled
  once := by
    rw [hinvocations, List.map_append, List.map_singleton, hsequence, ← List.concat_eq_append]
    apply h.once.concat
    intro hmem
    obtain ⟨other, hother, hsame⟩ := List.mem_map.mp hmem
    have hcached := h.cached other hother
    rw [hsame, hstored.new] at hcached
    contradiction
  count := by rw [hcount, hinvocations, h.count, List.length_append, List.length_singleton]
  reduced := by
    have hold := h.reduced
    rw [hreduced, hinvocations, List.length_append, List.length_singleton]
    omega
  within := by
    rw [hcount]
    exact within_succ hbudget
  cached := by
    intro other hother
    rw [hinvocations] at hother
    rcases List.mem_append.mp hother with hold | hlast
    · exact hstored.extends.isSome (h.cached other hold)
    · rw [List.mem_singleton.mp hlast, hsequence, hstored.known_self, Option.isSome_some]

/-- The books after an evaluation of a reduced candidate. -/
structure Evaluated (options : MinimizationOptions W) (candidate : List ActionOccurrence)
    (state : MinimizerState W) (result : Except JsString EvaluatedCandidate)
    (state' : MinimizerState W) : Prop where
  ledger : Ledger options state'
  keeps : Extends state state'
  settled : ∀ e, result = .ok e → e.evaluation.disposition ≠ .notEvaluatedBudget →
    Complete options state' ∧ known state' candidate = some e

variable {world : W}

theorem evaluated_of_skipped (h : Ledger options state) (hcomplete : Complete options state)
    (hproper : Proper options candidate) {reason : JsString} {counted : Nat}
    (hnew : known state candidate = none) (hcounted : counted = state.candidateEvaluations ∨
      counted = state.candidateEvaluations + 1 ∧ Room options .reducedCandidate state) :
    Evaluated options candidate state (.ok (skippedCandidate candidate reason)) { state with
        candidateEvaluations := counted
        evaluations := state.evaluations ++ [(skippedCandidate candidate reason).evaluation]
        world := world } where
  ledger := by
    refine ⟨h.replays.congr rfl rfl rfl (Extends.refl state), ?_⟩
    refine h.records.append hcomplete hproper hnew rfl rfl rfl ?_ ?_ ?_
    · have hskipped : (skippedCandidate candidate reason).evaluation.disposition =
          .notEvaluatedBudget := rfl
      rw [if_neg (not_not.mpr hskipped)]
      rcases hcounted with rfl | ⟨rfl, -⟩
      · exact Nat.le_refl _
      · exact Nat.le_succ _
    · rcases hcounted with rfl | ⟨rfl, hroom⟩
      · exact h.records.within
      · exact within_succ (hroom rfl)
    · intro other e' hother hknown
      exact (h.records.evidence other e' hother hknown).mono (List.subset_append_left _ _)
        (List.Subset.refl _)
  keeps := Extends.refl state
  settled := by
    intro e he hevaluated
    cases he
    exact absurd rfl hevaluated

variable {guard : CandidateGuardResult}

theorem evaluated_of_rejected
    (hids : ∀ item ∈ occurrences options, isActionId item.action.actionId = true)
    (h : Ledger options state) (hcomplete : Complete options state)
    (hproper : Proper options candidate) {invalid : Nat} (hnew : known state candidate = none)
    (hroom : Room options .reducedCandidate state) :
    Evaluated options candidate state (.ok (rejectedCandidate candidate guard))
      (store candidate (rejectedCandidate candidate guard) { state with
          candidateEvaluations := state.candidateEvaluations + 1
          invalidCandidateCount := invalid
          world := world }) := by
  have hstored : Stored state (store candidate (rejectedCandidate candidate guard)
      { state with
        candidateEvaluations := state.candidateEvaluations + 1
        invalidCandidateCount := invalid
        world := world }) candidate (rejectedCandidate candidate guard) :=
    ⟨rfl, rfl, List.Subset.refl _, hnew⟩
  refine ⟨⟨h.replays.congr rfl rfl rfl hstored.extends, ?_⟩, hstored.extends, ?_⟩
  · refine h.records.append hcomplete hproper hnew rfl rfl rfl ?_ (within_succ (hroom rfl)) ?_
    · rw [if_pos (by simp [rejectedCandidate, unreplayed])]
      rfl
    · intro other e' hother hknown
      refine evidence_stored hids h.records.evidence hstored hproper.sublist ?_ hother hknown
      refine ⟨⟨(rejectedCandidate candidate guard).evaluation, ?_, rfl, rfl, rfl⟩, ?_, ?_⟩
      · rw [hstored.evaluations]
        exact List.mem_append_right _ List.mem_cons_self
      · simp [rejectedCandidate, unreplayed]
      · rintro (hgenuine | hgenuine)
        · contradiction
        · contradiction
  · intro e he _
    cases he
    exact ⟨hcomplete.stored hstored hproper.sublist rfl, hstored.known_self⟩

theorem disposition_replayed (candidate : List ActionOccurrence)
    (returned : Option CandidateReplayOutcome) :
    (replayedCandidate options candidate returned).evaluation.disposition ≠
      .notEvaluatedBudget := by
  dsimp only [replayedCandidate]
  unfold outcomeReason
  split
  · simp
  · split_ifs <;> simp

theorem evaluated_of_replayed
    (hids : ∀ item ∈ occurrences options, isActionId item.action.actionId = true)
    (h : Ledger options state) (hcomplete : Complete options state)
    (hproper : Proper options candidate) {guarded : W}
    {returned : Option CandidateReplayOutcome} (hnew : known state candidate = none)
    (hroom : Room options .reducedCandidate state)
    (hguard : guardSequence options state.world candidate = (.ok guard, guarded))
    (hvalid : guard.valid = true)
    (hbudget : (JsNumber.ofNat state.replayCount).ge (budgetOf options).maxTotalReplays = false)
    (hreplay : options.replay guarded (candidate.map (·.action)) .reducedCandidate =
      (returned, world)) :
    Evaluated options candidate state (.ok (replayedCandidate options candidate returned))
      (bookReplay options candidate .reducedCandidate state.world returned
        { state with
          candidateEvaluations := state.candidateEvaluations + 1
          world := world }) := by
  have hstored : Stored state (bookReplay options candidate .reducedCandidate state.world returned
      { state with
        candidateEvaluations := state.candidateEvaluations + 1
        world := world }) candidate (replayedCandidate options candidate returned) :=
    ⟨rfl, rfl, List.subset_append_left _ _, hnew⟩
  refine ⟨⟨?_, ?_⟩, hstored.extends, ?_⟩
  · exact h.replays.append hproper rfl rfl ⟨guard, guarded, world, hguard, hvalid, hreplay⟩ hstored
      rfl rfl rfl hbudget
  · refine h.records.append hcomplete hproper hnew rfl rfl rfl ?_ (within_succ (hroom rfl)) ?_
    · rw [if_pos (disposition_replayed candidate returned)]
      rfl
    · intro other e' hother hknown
      refine evidence_stored hids h.records.evidence hstored hproper.sublist ?_ hother hknown
      refine ⟨⟨(replayedCandidate options candidate returned).evaluation, ?_, rfl, rfl, rfl⟩,
        disposition_replayed candidate returned, ?_⟩
      · rw [hstored.evaluations]
        exact List.mem_append_right _ List.mem_cons_self
      · intro _
        exact ⟨⟨candidate, .reducedCandidate, state.world, returned⟩,
          List.mem_append_right _ List.mem_cons_self, rfl, rfl⟩
  · intro e he _
    cases he
    exact ⟨hcomplete.stored hstored hproper.sublist rfl, hstored.known_self⟩

theorem evaluated_evaluate
    (hids : ∀ item ∈ occurrences options, isActionId item.action.actionId = true)
    (h : Ledger options state) (hcomplete : Complete options state)
    (hproper : Proper options candidate) :
    Evaluated options candidate state (evaluate options candidate .reducedCandidate state).1
      (evaluate options candidate .reducedCandidate state).2 := by
  have hevaluates := evaluates_evaluate options candidate .reducedCandidate state
  generalize evaluate options candidate .reducedCandidate state = evaluated at hevaluates ⊢
  obtain ⟨result, state'⟩ := evaluated
  cases hevaluates with
  | cached hknown =>
      refine ⟨h, Extends.refl _, ?_⟩
      intro e he _
      cases he
      exact ⟨hcomplete, hknown⟩
  | threw hnew =>
      refine ⟨⟨h.replays.congr rfl rfl rfl (Extends.refl state), ?_⟩, Extends.refl state, ?_⟩
      · refine ⟨?_, h.records.placed, h.records.original, h.records.distinct, h.records.counted,
          h.records.within⟩
        intro other e' hother hknown
        exact (h.records.evidence other e' hother hknown).mono (List.Subset.refl _)
          (List.Subset.refl _)
      · intro e he
        contradiction
  | skipped hnew hcounted => exact evaluated_of_skipped h hcomplete hproper hnew hcounted
  | rejected hnew hroom => exact evaluated_of_rejected hids h hcomplete hproper hnew hroom
  | replayed hnew hroom hguard hvalid hbudget hreplay =>
      exact evaluated_of_replayed hids h hcomplete hproper hnew hroom hguard hvalid hbudget hreplay

end Steps

end NightWatch.Triage.CandidateLedger
