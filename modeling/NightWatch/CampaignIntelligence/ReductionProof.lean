import NightWatch.CampaignIntelligence.MinimizationV2
import NightWatch.Triage.ReductionLoops

namespace NightWatch.CampaignIntelligence.ReductionProof

open Lib.JsText Lib.Guard Lib.Loop CampaignIntelligence.MinimizationV2
open Triage.CandidateLedger (eq_of_map_eq)
open Triage.ReductionLoops (splitIntoChunks_spec)

variable {W : Type} {input : MinimizationInput W} {edges : List ReductionDependencyEdge}

theorem require_eq_ok {condition : Bool} {reason : String} {u : Unit} :
    require condition reason = .ok u ↔ condition = true := by
  cases condition with
  | true => exact iff_of_true rfl rfl
  | false => exact iff_of_false (fun h => by contradiction) (fun h => by contradiction)

/-- What the checks leave of an input. -/
structure Accepted (input : MinimizationInput W) : Prop where
  nonempty : input.original ≠ []
  probes : 1 ≤ input.maxProbes
  ids : ∀ action ∈ input.original, isSafeId action.actionId = true ∧ 0 ≤ action.ordinal
  distinct : (input.original.map (·.ordinal)).Nodup

theorem accepted_of_validateInput (h : validateInput input = .ok edges) :
    Accepted input ∧ edges = (input.dependencies.getD []).mergeSort edgeLe := by
  simp only [validateInput, bind_eq_ok, require_eq_ok, decide_eq_true_eq, pure, Except.pure,
    Except.ok.injEq] at h
  obtain ⟨_, ⟨hnonempty, -⟩, _, ⟨hprobes, -⟩, _, hactions, _, hdistinct, _, -, _, -, rfl⟩ := h
  refine ⟨⟨hnonempty, hprobes, fun action haction => ?_, hdistinct⟩, rfl⟩
  have haction := forEach_eq_ok.mp hactions action haction
  simp only [validateAction, bind_eq_ok, require_eq_ok, decide_eq_true_eq] at haction
  obtain ⟨_, hid, _, -, hordinal, -⟩ := haction
  exact ⟨hid, hordinal⟩

/-- The actions of a sequence are in their order, and there is one. -/
structure Part (input : MinimizationInput W) (sequence : List ReductionAction) : Prop where
  sublist : List.Sublist sequence input.original
  nonempty : sequence ≠ []

def keyPiece (action : ReductionAction) : JsString :=
  decimal action.ordinal.toNat ++ ':' :: action.actionId

theorem not_mem_keyPiece {action : ReductionAction} (h : isSafeId action.actionId = true) :
    '>' ∉ keyPiece action := by
  intro hmem
  rw [keyPiece, List.mem_append, List.mem_cons] at hmem
  rcases hmem with hmem | heq | hmem
  · exact absurd (isDigit_of_mem_decimal hmem) (by decide)
  · exact absurd heq (by decide)
  · cases hid : action.actionId with
    | nil =>
        rw [hid] at hmem
        contradiction
    | cons c rest =>
        rw [hid] at h hmem
        simp only [isSafeId, Bool.and_eq_true, List.all_eq_true] at h
        rcases List.mem_cons.mp hmem with rfl | hmem
        · exact absurd h.1.1 (by decide)
        · exact absurd (h.2 _ hmem) (by decide)

theorem ordinal_of_keyPiece_eq {a b : ReductionAction} (ha : 0 ≤ a.ordinal) (hb : 0 ≤ b.ordinal)
    (h : keyPiece a = keyPiece b) : a.ordinal = b.ordinal := by
  have hcolon : ∀ n, ':' ∉ decimal n := by
    intro n hmem
    exact absurd (isDigit_of_mem_decimal hmem) (by decide)
  have hsplit := congrArg (splitFirst ':') h
  rw [keyPiece, keyPiece, splitFirst_append (hcolon _), splitFirst_append (hcolon _)] at hsplit
  have hordinals := decimal_injective (Prod.mk.inj (Option.some.inj hsplit)).1
  omega

theorem sequenceKey_injective (h : Accepted input) {as bs : List ReductionAction}
    (ha : Part input as) (hb : Part input bs) (hkey : sequenceKey as = sequenceKey bs) :
    as = bs := by
  have hsplit : ∀ {sequence}, Part input sequence →
      (sequenceKey sequence).splitOn '>' = sequence.map keyPiece := by
    intro sequence hpart
    refine List.splitOn_intercalate _ (fun piece hpiece => ?_) (by simpa using hpart.nonempty)
    obtain ⟨action, haction, rfl⟩ := List.mem_map.mp hpiece
    exact not_mem_keyPiece (h.ids action (hpart.sublist.subset haction)).1
  have hpieces := congrArg (List.splitOn '>') hkey
  rw [hsplit ha, hsplit hb] at hpieces
  refine eq_of_map_eq (fun a hmem b hmem' hpiece => ?_) hpieces
  have ha' := ha.sublist.subset hmem
  have hb' := hb.sublist.subset hmem'
  exact List.inj_on_of_nodup_map h.distinct ha' hb'
    (ordinal_of_keyPiece_eq (h.ids a ha').2 (h.ids b hb').2 hpiece)

/-- A result of a sequence is recorded, and it is the probe's, or of a probe that threw, or the
sequence lacks a prerequisite. -/
structure Answered (edges : List ReductionDependencyEdge) (run : Run W)
    (sequence : List ReductionAction) (result : ReductionProbeResult) : Prop where
  recorded : record sequence result ∈ run.evaluations
  source : (∃ answer, (sequence, answer) ∈ run.probed ∧ answer.getD executorFailure = result) ∨
    dependencySatisfied edges sequence = false ∧ result = dependencyFailure

/-- What holds of the probes at every moment, also where a run is given up. -/
structure Kept (input : MinimizationInput W) (edges : List ReductionDependencyEdge)
    (run : Run W) : Prop where
  attempts : run.probesAttempted = run.probed.length
  within : (run.probed.length : ℤ) ≤ input.maxProbes
  distinct : (run.probed.map Prod.fst).Nodup
  satisfied : ∀ entry ∈ run.probed, dependencySatisfied edges entry.1 = true

/-- The cache tells what was recorded, and knows every sequence that was probed. -/
structure Ledger (input : MinimizationInput W) (edges : List ReductionDependencyEdge)
    (run : Run W) : Prop extends Kept input edges run where
  cached : ∀ sequence result, Part input sequence →
    run.cache.lookup (sequenceKey sequence) = some result → Answered edges run sequence result
  known : ∀ entry ∈ run.probed, (run.cache.lookup (sequenceKey entry.1)).isSome = true

/-- Nothing that was recorded or probed is forgotten. -/
structure Grows (run run' : Run W) : Prop where
  evaluations : run.evaluations ⊆ run'.evaluations
  probed : run.probed ⊆ run'.probed
  exhausted : run'.budgetExhausted = false → run.budgetExhausted = false

theorem Grows.refl (run : Run W) : Grows run run :=
  ⟨List.Subset.refl _, List.Subset.refl _, id⟩

variable {run run' : Run W}

theorem Grows.trans {run'' : Run W} (h : Grows run run') (h' : Grows run' run'') :
    Grows run run'' :=
  ⟨List.Subset.trans h.evaluations h'.evaluations, List.Subset.trans h.probed h'.probed,
    fun hbudget => h.exhausted (h'.exhausted hbudget)⟩

variable {current sequence : List ReductionAction} {result : ReductionProbeResult}
  {candidate : List ReductionAction}

theorem Answered.mono (h : Answered edges run sequence result)
    (hgrows : Grows run run') : Answered edges run' sequence result where
  recorded := hgrows.evaluations h.recorded
  source := h.source.imp_left fun ⟨answer, hmem, heq⟩ => ⟨answer, hgrows.probed hmem, heq⟩

theorem ledger_start (hinput : Accepted input) (world : W) :
    Ledger input edges (Run.start world) where
  attempts := rfl
  within := le_trans zero_le_one hinput.probes
  distinct := List.nodup_nil
  satisfied := fun _ h => absurd h List.not_mem_nil
  cached := fun _ _ _ h => by contradiction
  known := fun _ h => absurd h List.not_mem_nil

theorem evaluate_spec (hinput : Accepted input) (h : Ledger input edges run)
    {sequence : List ReductionAction} (hpart : Part input sequence) :
    (∃ reason, (evaluate input edges run sequence).1 = .error reason ∧
        Kept input edges (evaluate input edges run sequence).2) ∨
      ∃ result, (evaluate input edges run sequence).1 = .ok result ∧
        Ledger input edges (evaluate input edges run sequence).2 ∧
        Grows run (evaluate input edges run sequence).2 ∧
        (Answered edges (evaluate input edges run sequence).2 sequence result ∨
          result = exhausted ∧ (evaluate input edges run sequence).2.budgetExhausted = true) := by
  -- What is stored under a new key leaves the other entries as they are.
  have hstore : ∀ {run' : Run W} {result : ReductionProbeResult}, Kept input edges run' →
      Grows run run' → run'.cache = run.cache → run'.budgetExhausted = run.budgetExhausted →
      run.cache.lookup (sequenceKey sequence) = none →
      (∀ entry ∈ run'.probed, entry ∈ run.probed ∨ entry.1 = sequence) →
      Answered edges (run'.store sequence result) sequence result →
      Ledger input edges (run'.store sequence result) ∧ Grows run (run'.store sequence result) := by
    intro run' result hkept hgrows hcache hbudget hnew hprobed hanswered
    have hgrows' : Grows run (run'.store sequence result) :=
      ⟨List.Subset.trans hgrows.evaluations (List.subset_append_left _ _), hgrows.probed,
        fun hnot => by rw [← hbudget]; exact hnot⟩
    refine ⟨⟨⟨hkept.attempts, hkept.within, hkept.distinct, hkept.satisfied⟩, ?_, ?_⟩, hgrows'⟩
    · intro other found hother hfound
      change ((sequenceKey sequence, result) :: run'.cache).lookup (sequenceKey other) = _ at hfound
      rw [List.lookup_cons] at hfound
      split at hfound
      · rename_i hkey
        obtain rfl := sequenceKey_injective hinput hother hpart (beq_iff_eq.mp hkey)
        rwa [← Option.some.inj hfound]
      · rw [hcache] at hfound
        exact (h.cached other found hother hfound).mono hgrows'
    · intro entry hentry
      change (((sequenceKey sequence, result) :: run'.cache).lookup _).isSome = true
      rw [List.lookup_cons]
      split
      · rfl
      · rename_i hkey
        rcases hprobed entry hentry with hmem | rfl
        · rw [hcache]
          exact h.known entry hmem
        · simp at hkey
  rw [evaluate]
  cases hlookup : run.cache.lookup (sequenceKey sequence) with
  | some cached =>
      have hgrows : Grows run { run with cacheHits := run.cacheHits + 1 } :=
        ⟨List.Subset.refl _, List.Subset.refl _, id⟩
      have hanswered := h.cached sequence cached hpart hlookup
      refine .inr ⟨cached, rfl, ?_, hgrows, .inl (hanswered.mono hgrows)⟩
      exact ⟨⟨h.attempts, h.within, h.distinct, h.satisfied⟩,
        fun other found hother hfound => (h.cached other found hother hfound).mono hgrows, h.known⟩
  | none =>
      dsimp only
      split
      · refine .inr ⟨exhausted, rfl, ?_, ?_, .inr ⟨rfl, rfl⟩⟩
        · refine ⟨⟨h.attempts, h.within, h.distinct, h.satisfied⟩, ?_, h.known⟩
          intro other found hother hfound
          have hother := h.cached other found hother hfound
          exact ⟨List.subset_append_left _ _ hother.recorded, hother.source⟩
        · exact ⟨List.subset_append_left _ _, List.Subset.refl _, fun h => by contradiction⟩
      rename_i hbudget
      split
      · rename_i hdependency
        rw [Bool.not_eq_true'] at hdependency
        have hanswered : Answered edges (run.store sequence dependencyFailure) sequence
            dependencyFailure :=
          ⟨List.mem_append_right _ List.mem_cons_self, .inr ⟨hdependency, rfl⟩⟩
        obtain ⟨hledger, hgrows⟩ := hstore h.toKept (.refl run) rfl rfl hlookup
          (fun entry hentry => .inl hentry) hanswered
        exact .inr ⟨_, rfl, hledger, hgrows, .inl hanswered⟩
      rename_i hdependency
      have hnew : ∀ entry ∈ run.probed, entry.1 ≠ sequence := by
        rintro entry hentry rfl
        have hknown := h.known entry hentry
        rw [hlookup] at hknown
        contradiction
      generalize input.probe run.world sequence = reply
      have hkept : Kept input edges (run.asked sequence reply) := by
        refine ⟨?_, ?_, ?_, ?_⟩
        · simp [Run.asked, h.attempts]
        · have hattempts := h.attempts
          simp only [Run.asked, List.length_append, List.length_singleton]
          omega
        · rw [Run.asked, List.map_append, List.nodup_append]
          refine ⟨h.distinct, List.nodup_singleton _, ?_⟩
          intro other hother probe hprobe heq
          obtain ⟨entry, hentry, rfl⟩ := List.mem_map.mp hother
          exact hnew entry hentry (heq.trans (List.mem_singleton.mp hprobe))
        · intro entry hentry
          rcases List.mem_append.mp hentry with hentry | hentry
          · exact h.satisfied entry hentry
          · rw [List.mem_singleton.mp hentry]
            simpa using hdependency
      split
      · exact .inl ⟨_, rfl, hkept⟩
      have hanswered : Answered edges
          ((run.asked sequence reply).store sequence (reply.1.getD executorFailure)) sequence
          (reply.1.getD executorFailure) :=
        ⟨List.mem_append_right _ List.mem_cons_self,
          .inl ⟨reply.1, List.mem_append_right _ List.mem_cons_self, rfl⟩⟩
      have hasked : ∀ entry ∈ (run.asked sequence reply).probed,
          entry ∈ run.probed ∨ entry.1 = sequence := by
        intro entry hentry
        rcases List.mem_append.mp hentry with hentry | hentry
        · exact .inl hentry
        · exact .inr (congrArg Prod.fst (List.mem_singleton.mp hentry))
      obtain ⟨hledger, hgrows⟩ := hstore hkept
        ⟨List.Subset.refl _, List.subset_append_left _ _, id⟩ rfl rfl hlookup hasked hanswered
      exact .inr ⟨_, rfl, hledger, hgrows, .inl hanswered⟩

/-- The sequence was probed and preserves the finding. -/
structure Preserved (input : MinimizationInput W) (run : Run W)
    (sequence : List ReductionAction) : Prop where
  part : Part input sequence
  probed : ∃ answer, (sequence, some answer) ∈ run.probed ∧
    record sequence answer ∈ run.evaluations ∧ answer.valid = true ∧
    answer.preservesFinding = true

theorem Preserved.mono (h : Preserved input run sequence) (hgrows : Grows run run') :
    Preserved input run' sequence := by
  obtain ⟨hpart, answer, hmem, hrecorded, hanswer⟩ := h
  exact ⟨hpart, answer, hgrows.probed hmem, hgrows.evaluations hrecorded, hanswer⟩

theorem Answered.preserved (h : Answered edges run sequence result)
    (hpart : Part input sequence) (hvalid : result.valid = true)
    (hpreserves : result.preservesFinding = true) : Preserved input run sequence := by
  refine ⟨hpart, result, ?_, h.recorded, hvalid, hpreserves⟩
  rcases h.source with ⟨answer, hmem, rfl⟩ | ⟨-, rfl⟩
  · cases answer with
    | none => contradiction
    | some answer => exact hmem
  · contradiction

theorem tryEach_spec (hinput : Accepted input) {candidates : List (List ReductionAction)}
    (h : Ledger input edges run) (hparts : ∀ c ∈ candidates, Part input c) :
    (∃ reason, (tryEach input edges candidates run).1 = .error reason ∧
        Kept input edges (tryEach input edges candidates run).2) ∨
      ∃ pass, (tryEach input edges candidates run).1 = .ok pass ∧
        Ledger input edges (tryEach input edges candidates run).2 ∧
        Grows run (tryEach input edges candidates run).2 ∧
        (∀ candidate, pass.accepted = some candidate → candidate ∈ candidates ∧
          Preserved input (tryEach input edges candidates run).2 candidate) ∧
        (pass.accepted = none → (tryEach input edges candidates run).2.budgetExhausted = false →
          List.Forall₂ (Answered edges (tryEach input edges candidates run).2) candidates
            pass.results) := by
  induction candidates generalizing run with
  | nil => exact .inr ⟨⟨none, []⟩, rfl, h, .refl run, fun _ h => by contradiction, fun _ _ => .nil⟩
  | cons candidate rest ih =>
      have hpart := hparts candidate List.mem_cons_self
      rw [tryEach]
      obtain ⟨reason, herror, hkept⟩ | ⟨result, hok, hledger, hgrows, hanswered⟩ :=
        evaluate_spec hinput h hpart
      · generalize evaluate input edges run candidate = evaluated at herror hkept
        obtain ⟨_, run'⟩ := evaluated
        subst herror
        exact .inl ⟨reason, rfl, hkept⟩
      · generalize evaluate input edges run candidate = evaluated at hok hledger hgrows hanswered
        obtain ⟨_, run'⟩ := evaluated
        subst hok
        dsimp only at hledger hgrows hanswered ⊢
        split
        · rename_i hpreserves
          rw [Bool.and_eq_true] at hpreserves
          refine .inr ⟨_, rfl, hledger, hgrows, ?_, fun hnone => by contradiction⟩
          rintro _ ⟨⟩
          rcases hanswered with hanswered | ⟨rfl, -⟩
          · exact ⟨List.mem_cons_self, hanswered.preserved hpart hpreserves.1 hpreserves.2⟩
          · exact absurd hpreserves.1 (by decide)
        split
        · rename_i hbudget
          refine .inr ⟨_, rfl, hledger, hgrows, fun _ h => by contradiction, fun _ hnot => ?_⟩
          rw [hbudget] at hnot
          contradiction
        rename_i hbudget
        obtain ⟨reason, herror, hkept⟩ | ⟨pass, hok, hledger', hgrows', haccepted, hnone⟩ :=
          ih hledger fun c hc => hparts c (List.mem_cons_of_mem _ hc)
        · generalize tryEach input edges rest run' = tried at herror hkept
          obtain ⟨_, run''⟩ := tried
          subst herror
          exact .inl ⟨reason, rfl, hkept⟩
        · generalize tryEach input edges rest run' = tried at hok hledger' hgrows' haccepted hnone
          obtain ⟨_, run''⟩ := tried
          subst hok
          refine .inr ⟨_, rfl, hledger', hgrows.trans hgrows', ?_, ?_⟩
          · intro c hc
            obtain ⟨hmem, hpreserved⟩ := haccepted c hc
            exact ⟨List.mem_cons_of_mem _ hmem, hpreserved⟩
          · intro hpass hnot
            rcases hanswered with hanswered | ⟨-, hexhausted⟩
            · exact .cons (hanswered.mono hgrows') (hnone hpass hnot)
            · exact absurd hexhausted hbudget

/-- What holds while a search goes on. -/
structure Searching (input : MinimizationInput W) (edges : List ReductionDependencyEdge)
    (run : Run W) (current : List ReductionAction) : Prop where
  ledger : Ledger input edges run
  preserved : Preserved input run current

theorem part_of_mem_chunkCandidates {granularity : Nat}
    (hpart : Part input current) (h : candidate ∈ chunkCandidates current granularity) :
    Part input candidate ∧ candidate.length < current.length := by
  obtain ⟨hcandidate, hne⟩ := List.mem_filter.mp h
  obtain ⟨chunk, hchunk, rfl⟩ := List.mem_map.mp hcandidate
  obtain ⟨hchunkne, hsub⟩ := splitIntoChunks_spec hpart.nonempty chunk hchunk
  refine ⟨⟨List.filter_sublist.trans hpart.sublist, of_decide_eq_true hne⟩, ?_⟩
  obtain ⟨action, haction⟩ := List.exists_mem_of_ne_nil chunk hchunkne
  exact List.length_filter_lt_length_iff_exists.mpr ⟨action, hsub haction, by simpa using haction⟩

theorem part_of_mem_deletions (hpart : Part input current) (hlength : 1 < current.length)
    (h : candidate ∈ deletions current) :
    Part input candidate ∧ candidate.length < current.length := by
  obtain ⟨i, hi, rfl⟩ := List.mem_map.mp h
  have hless := List.length_eraseIdx_of_lt (List.mem_range.mp hi)
  refine ⟨⟨(List.eraseIdx_sublist ..).trans hpart.sublist, ?_⟩, by omega⟩
  intro hnil
  rw [hnil, List.length_nil] at hless
  omega

/-- What the search for chunks keeps from turn to turn. -/
structure ChunkInvariant (input : MinimizationInput W) (edges : List ReductionDependencyEdge)
    (search : ChunkSearch W) : Prop extends
    Searching input edges search.run search.current where
  granular : 0 < search.granularity

def ChunkFound (input : MinimizationInput W) (edges : List ReductionDependencyEdge) : Ended W → Prop
  | (.error _, run) => Kept input edges run
  | (.ok (current, _), run) => Searching input edges run current

theorem chunkTurn_spec (hinput : Accepted input) {search : ChunkSearch W}
    (h : ChunkInvariant input edges search) :
    (∃ ended, chunkTurn input edges search = .done ended ∧ ChunkFound input edges ended) ∨
      ∃ search', chunkTurn input edges search = .again search' ∧
        ChunkInvariant input edges search' ∧ (search'.current.length < search.current.length ∨
          search'.current = search.current ∧ search.granularity < search.current.length ∧
            search.granularity < search'.granularity) := by
  have hpart := h.preserved.part
  rw [chunkTurn]
  split
  · exact .inl ⟨_, rfl, h.toSearching⟩
  obtain ⟨reason, herror, hkept⟩ | ⟨pass, hok, hledger, hgrows, haccepted, -⟩ :=
    tryEach_spec hinput h.ledger fun c hc => (part_of_mem_chunkCandidates hpart hc).1
  · generalize tryEach input edges _ search.run = tried at herror hkept
    obtain ⟨_, run⟩ := tried
    subst herror
    exact .inl ⟨_, rfl, hkept⟩
  generalize tryEach input edges _ search.run = tried at hok hledger hgrows haccepted
  obtain ⟨_, run⟩ := tried
  subst hok
  dsimp only at hledger hgrows haccepted ⊢
  have hcurrent : Searching input edges run search.current := ⟨hledger, h.preserved.mono hgrows⟩
  split
  · refine .inl ⟨_, rfl, ?_⟩
    cases hpass : pass.accepted with
    | none => exact hcurrent
    | some candidate => exact ⟨hledger, (haccepted candidate hpass).2⟩
  cases hpass : pass.accepted with
  | some candidate =>
      obtain ⟨hmem, hpreserved⟩ := haccepted candidate hpass
      refine .inr ⟨_, rfl, ⟨⟨hledger, hpreserved⟩, ?_⟩, .inl ?_⟩
      · exact lt_max_of_lt_left two_pos
      · exact (part_of_mem_chunkCandidates hpart hmem).2
  | none =>
      dsimp only
      split
      · exact .inl ⟨_, rfl, hcurrent⟩
      · rename_i hless
        have hgranular := h.granular
        have hmore : search.granularity < min search.current.length (search.granularity * 2) := by
          omega
        exact .inr ⟨_, rfl, ⟨hcurrent, hgranular.trans hmore⟩, .inr ⟨rfl, not_le.mp hless, hmore⟩⟩

/-- Every smaller sequence has been evaluated, validly, and has lost the finding. -/
def Tight (edges : List ReductionDependencyEdge) (run : Run W)
    (current : List ReductionAction) : Prop :=
  ∀ candidate ∈ deletions current, candidate ≠ [] → ∃ result,
    Answered edges run candidate result ∧ result.valid = true ∧ result.preservesFinding = false

def StepFound (input : MinimizationInput W) (edges : List ReductionDependencyEdge) :
    StepEnded W → Prop
  | (.error _, run) => Kept input edges run
  | (.ok (current, proven, _), run) =>
      Searching input edges run current ∧ (proven = true → Tight edges run current)

theorem tight_of_results {results : List ReductionProbeResult}
    (h : List.Forall₂ (Answered edges run) (deletions current) results)
    (hall : results.all fun result => result.valid && !result.preservesFinding) :
    Tight edges run current := by
  intro candidate hcandidate _
  obtain ⟨i, hi, rfl⟩ := List.getElem_of_mem hcandidate
  have hlength := h.length_eq
  have hresult := List.all_eq_true.mp hall _ (List.getElem_mem (l := results) (by omega : i < _))
  rw [Bool.and_eq_true, Bool.not_eq_true'] at hresult
  exact ⟨_, (List.forall₂_iff_get.mp h).2 i hi (by omega), hresult⟩

theorem stepTurn_spec (hinput : Accepted input) {search : StepSearch W}
    (h : Searching input edges search.run search.current) :
    (∃ ended, stepTurn input edges search = .done ended ∧ StepFound input edges ended) ∨
      ∃ search', stepTurn input edges search = .again search' ∧
        Searching input edges search'.run search'.current ∧
        search'.current.length < search.current.length := by
  have hpart := h.preserved.part
  rw [stepTurn]
  split
  · exact .inl ⟨_, rfl, h, fun hproven => by contradiction⟩
  rename_i hgoes
  rw [Bool.or_eq_true, not_or, decide_eq_true_eq, not_le] at hgoes
  obtain ⟨reason, herror, hkept⟩ | ⟨pass, hok, hledger, hgrows, haccepted, hnone⟩ :=
    tryEach_spec hinput h.ledger fun c hc => (part_of_mem_deletions hpart hgoes.2 hc).1
  · generalize tryEach input edges _ search.run = tried at herror hkept
    obtain ⟨_, run⟩ := tried
    subst herror
    exact .inl ⟨_, rfl, hkept⟩
  generalize tryEach input edges _ search.run = tried at hok hledger hgrows haccepted hnone
  obtain ⟨_, run⟩ := tried
  subst hok
  dsimp only at hledger hgrows haccepted hnone ⊢
  cases hpass : pass.accepted with
  | some candidate =>
      obtain ⟨hmem, hpreserved⟩ := haccepted candidate hpass
      exact .inr ⟨_, rfl, ⟨hledger, hpreserved⟩, (part_of_mem_deletions hpart hgoes.2 hmem).2⟩
  | none =>
      refine .inl ⟨_, rfl, ⟨hledger, h.preserved.mono hgrows⟩, fun hproven => ?_⟩
      simp only [Bool.and_eq_true, Bool.not_eq_true'] at hproven
      exact tight_of_results (hnone hpass hproven.1.1) hproven.2

theorem chunkLoop_spec (hinput : Accepted input) (h : Searching input edges run input.original) :
    ∃ ended, loop (chunkTurn input edges) (turns input.original.length)
        ⟨run, input.original, min 2 input.original.length⟩ = some ended ∧
      ChunkFound input edges ended := by
  have hpos := List.length_pos_iff.mpr hinput.nonempty
  refine loop_spec (P := ChunkInvariant input edges)
    (fun search => search.current.length * (input.original.length + 1) +
      (search.current.length - search.granularity)) ?_ ⟨h, by dsimp only; omega⟩ ?_
  · intro search hsearch
    refine (chunkTurn_spec hinput hsearch).imp id ?_
    rintro ⟨search', hagain, hsearch', hless⟩
    refine ⟨search', hagain, hsearch', ?_⟩
    have hlength := hsearch'.preserved.part.sublist.length_le
    rcases hless with hless | ⟨heq, hgranular, hmore⟩
    · -- A shorter sequence outweighs any granularity.
      calc search'.current.length * (input.original.length + 1) +
            (search'.current.length - search'.granularity)
        _ < (search'.current.length + 1) * (input.original.length + 1) := by
            rw [Nat.succ_mul]
            omega
        _ ≤ search.current.length * (input.original.length + 1) :=
            Nat.mul_le_mul_right _ hless
        _ ≤ _ := Nat.le_add_right _ _
    · rw [heq]
      omega
  · simp only [turns, Nat.succ_mul]
    omega

theorem stepLoop_spec (hinput : Accepted input) {current : List ReductionAction}
    (h : Searching input edges run current) :
    ∃ ended, loop (stepTurn input edges) (turns input.original.length) ⟨run, current, 0⟩ =
        some ended ∧ StepFound input edges ended := by
  refine loop_spec (P := fun search => Searching input edges search.run search.current)
    (fun search => search.current.length) (fun _ => stepTurn_spec hinput) h ?_
  have hlength := h.preserved.part.sublist.length_le
  simp only [turns, Nat.succ_mul]
  omega

/-- What backs a claim of minimality: the sequence was probed and preserved the finding, and each
smaller one was validly evaluated and lost it, by a probe that returned or for a missing
prerequisite. -/
def Backed (input : MinimizationInput W) (edges : List ReductionDependencyEdge) (run : Run W)
    (result : MinimizationV2Core) : Prop :=
  ∃ minimal, List.Sublist minimal input.original ∧ minimal ≠ [] ∧
    result.minimalOrdinals = minimal.map (·.ordinal) ∧
    result.minimalActionIds = minimal.map (·.actionId) ∧
    (∃ answer, (minimal, some answer) ∈ run.probed ∧
      record minimal answer ∈ result.evaluations ∧ answer.valid = true ∧
      answer.preservesFinding = true) ∧
    ∀ candidate ∈ deletions minimal, candidate ≠ [] → ∃ answer,
      record candidate answer ∈ result.evaluations ∧ answer.valid = true ∧
      answer.preservesFinding = false ∧
      ((candidate, some answer) ∈ run.probed ∨
        dependencySatisfied edges candidate = false ∧ answer = dependencyFailure)

theorem backed_of_tight
    (h : Searching input edges run current) (htight : Tight edges run current) (passes : Nat)
    (complete proven : Bool) :
    Backed input edges run (concluded input edges run current passes complete proven) := by
  obtain ⟨answer, hmem, hrecorded, hvalid, hpreserves⟩ := h.preserved.probed
  refine ⟨current, h.preserved.part.sublist, h.preserved.part.nonempty, rfl, rfl,
    ⟨answer, hmem, hrecorded, hvalid, hpreserves⟩, ?_⟩
  intro candidate hcandidate hne
  obtain ⟨result, hanswered, hresult, hlost⟩ := htight candidate hcandidate hne
  refine ⟨result, hanswered.recorded, hresult, hlost, ?_⟩
  rcases hanswered.source with ⟨reply, hreply, rfl⟩ | hdependency
  · cases reply with
    | none => contradiction
    | some reply => exact .inl hreply
  · exact .inr hdependency

theorem tight_of_length_eq_one (h : current.length = 1) : Tight edges run current := by
  intro candidate hcandidate hne
  obtain ⟨action, rfl⟩ := List.length_eq_one_iff.mp h
  rw [deletions] at hcandidate
  simp at hcandidate
  contradiction

theorem proven_of_proofOf {complete proven : Bool}
    (h : proofOf input run complete proven ≠ .notProvenMinimal) : proven = true := by
  cases proven with
  | true => rfl
  | false => exact absurd (by simp [proofOf]) h

theorem reduce_spec (hinput : Accepted input) (h : Searching input edges run input.original) :
    ∃ ended, reduce input edges run = some ended ∧ Kept input edges ended.2 ∧
      ∀ core, ended.1 = .ok core → core.proof ≠ .notProvenMinimal →
        Backed input edges ended.2 core := by
  obtain ⟨⟨chunked, run₁⟩, hchunked, hfound⟩ := chunkLoop_spec hinput h
  rw [reduce, hchunked, Option.bind_some]
  cases chunked with
  | error reason => exact ⟨_, rfl, hfound, fun core hcore => by contradiction⟩
  | ok found =>
      obtain ⟨current, complete⟩ := found
      obtain ⟨⟨ended, run₂⟩, hended, hsearching⟩ := stepLoop_spec hinput hfound
      dsimp only
      rw [hended, Option.map_some]
      cases ended with
      | error reason => exact ⟨_, rfl, hsearching, fun core hcore => by contradiction⟩
      | ok found =>
          obtain ⟨minimal, proven, passes⟩ := found
          obtain ⟨hsearch, htight⟩ := hsearching
          refine ⟨_, rfl, hsearch.ledger.toKept, ?_⟩
          rintro _ ⟨⟩ hproof
          refine backed_of_tight hsearch ?_ _ _ _
          -- Without the proof of the last search the sequence has one action.
          have hproven := proven_of_proofOf hproof
          rw [Bool.or_eq_true, Bool.and_eq_true, decide_eq_true_eq] at hproven
          exact hproven.elim htight fun hone => tight_of_length_eq_one hone.1

/-- A run ends, keeps to its budget, never probes twice nor a sequence without a prerequisite, and
a proof of minimality is backed by valid evaluations. -/
theorem minimization_backed (digest : MinimizationV2Core → JsString) (world : W)
    (h : validateInput input = .ok edges) :
    ∃ ended run, minimizeSequenceV2 digest input world = some (ended, run) ∧
      (run.probed.length : ℤ) ≤ input.maxProbes ∧ (run.probed.map Prod.fst).Nodup ∧
      (∀ entry ∈ run.probed, dependencySatisfied (input.dependencies.getD []) entry.1 = true) ∧
      ∀ result, ended = .ok result → result.proof ≠ .notProvenMinimal →
        Backed input edges run result.toMinimizationV2Core := by
  obtain ⟨hinput, hedges⟩ := accepted_of_validateInput h
  have hdependencies : ∀ {run : Run W}, Kept input edges run → ∀ entry ∈ run.probed,
      dependencySatisfied (input.dependencies.getD []) entry.1 = true := by
    intro run hkept entry hentry
    have hsatisfied := hkept.satisfied entry hentry
    rw [hedges] at hsatisfied
    simpa only [dependencySatisfied, List.all_eq_true, List.mem_mergeSort] using hsatisfied
  have hpart : Part input input.original := ⟨.refl _, hinput.nonempty⟩
  rw [minimizeSequenceV2, h]
  dsimp only
  obtain ⟨reason, herror, hkept⟩ | ⟨result, hok, hledger, hgrows, hanswered⟩ :=
    evaluate_spec hinput (ledger_start hinput world) hpart
  · generalize evaluate input edges _ input.original = evaluated at herror hkept
    obtain ⟨_, run⟩ := evaluated
    subst herror
    exact ⟨_, run, rfl, hkept.within, hkept.distinct, hdependencies hkept,
      fun _ h => by contradiction⟩
  generalize evaluate input edges _ input.original = evaluated at hok hledger hgrows hanswered
  obtain ⟨_, run⟩ := evaluated
  subst hok
  dsimp only at hledger hanswered ⊢
  split
  · refine ⟨_, run, rfl, hledger.within, hledger.distinct, hdependencies hledger.toKept, ?_⟩
    rintro _ ⟨⟩ hproof
    exact absurd rfl hproof
  rename_i hfresh
  simp only [Bool.or_eq_true, not_or, Bool.not_eq_true', Bool.not_eq_false] at hfresh
  have hpreserved : Preserved input run input.original := by
    rcases hanswered with hanswered | ⟨rfl, -⟩
    · exact hanswered.preserved hpart hfresh.1 hfresh.2
    · exact absurd hfresh.1 (by decide)
  obtain ⟨⟨ended, run'⟩, hreduce, hkept, hbacked⟩ := reduce_spec hinput ⟨hledger, hpreserved⟩
  rw [hreduce]
  refine ⟨_, run', rfl, hkept.within, hkept.distinct, hdependencies hkept, ?_⟩
  intro result hresult hproof
  cases ended with
  | error reason => contradiction
  | ok core =>
      obtain rfl := Except.ok.inj hresult
      exact hbacked core rfl hproof

def dependentPair : MinimizationInput Unit where
  original := [⟨['a'], 0, none⟩, ⟨['b'], 1, none⟩]
  maxProbes := 4
  semanticIdentityBound := false
  dependencies := some [⟨0, 1⟩]
  probe := fun _ sequence =>
    (some ⟨true, decide (1 ∈ sequence.map (·.ordinal)), .reproduces, ['R']⟩, ())

theorem minimization_backed_dependentPair : validateInput dependentPair = .ok [⟨0, 1⟩] ∧
      ∃ ended run, minimizeSequenceV2 (fun _ => []) dependentPair () = some (ended, run) ∧
        (run.probed.length : ℤ) ≤ dependentPair.maxProbes ∧ (run.probed.map Prod.fst).Nodup ∧
        (∀ entry ∈ run.probed,
          dependencySatisfied (dependentPair.dependencies.getD []) entry.1 = true) ∧
        ∀ result, ended = .ok result → result.proof ≠ .notProvenMinimal →
          Backed dependentPair [⟨0, 1⟩] run result.toMinimizationV2Core :=
  ⟨by decide +kernel, minimization_backed (fun _ => []) () (by decide +kernel)⟩

def contradictory : MinimizationInput Unit where
  original := [⟨['a'], 0, none⟩]
  maxProbes := 1
  semanticIdentityBound := false
  dependencies := none
  probe := fun _ _ => (some ⟨true, true, .executorFailure, ['R']⟩, ())

/-- Only the two answers decide; the outcome is recorded and not consulted. -/
theorem minimal_without_reproduction : validateInput contradictory = .ok [] ∧
      (minimizeSequenceV2 (fun _ => []) contradictory ()).map (fun ended =>
          (ended.1.toOption.map (·.proof), ended.2.probed)) = some (some .chunkAndStepFixedPoint,
          [(contradictory.original, some ⟨true, true, .executorFailure, ['R']⟩)]) := by
  decide +kernel

end NightWatch.CampaignIntelligence.ReductionProof
