import NightWatch.Triage.CandidateLedger

namespace NightWatch.Triage.ReductionLoops

open Lib.Loop Lib.JsText Triage.Types Triage.Minimizer Triage.CandidateLedger

variable {W : Type}

section Chunks

variable {α : Type} {items : List α}

theorem chunksFrom_spec {base count remainder cursor : Nat} (hbase : 0 < base)
    (hfits : cursor + count * base + min remainder count ≤ items.length) :
    ∀ chunk ∈ chunksFrom items base count remainder cursor, chunk ≠ [] ∧ chunk ⊆ items := by
  induction count generalizing remainder cursor with
  | zero =>
      intro chunk hchunk
      contradiction
  | succ count ih =>
      intro chunk hchunk
      rw [Nat.add_mul, Nat.one_mul] at hfits
      rcases List.mem_cons.mp hchunk with rfl | hrest
      · constructor
        · intro hnil
          have hlength := congrArg List.length hnil
          rw [List.length_take, List.length_drop, List.length_nil] at hlength
          omega
        · exact List.Subset.trans (List.take_subset _ _) (List.drop_subset _ _)
      · apply ih _ chunk hrest
        split_ifs with hremainder
        · omega
        · omega

theorem splitIntoChunks_spec {count : Nat} (hitems : items ≠ []) :
    ∀ chunk ∈ splitIntoChunks items count, chunk ≠ [] ∧ chunk ⊆ items := by
  have hlength : 0 < items.length := List.length_pos_iff.mpr hitems
  have hactual : 0 < max 1 (min count items.length) := by omega
  have hle : max 1 (min count items.length) ≤ items.length := by omega
  apply chunksFrom_spec (Nat.div_pos hle hactual)
  have hsum := Nat.div_add_mod items.length (max 1 (min count items.length))
  rw [Nat.zero_add]
  calc
    _ ≤ max 1 (min count items.length) * (items.length / max 1 (min count items.length)) +
        items.length % max 1 (min count items.length) :=
      Nat.add_le_add_left (Nat.min_le_left _ _) _
    _ ≤ items.length := hsum.le

end Chunks

variable {candidate current : List ActionOccurrence}

theorem length_withoutChunk_lt {chunk : List ActionOccurrence} (hne : chunk ≠ [])
    (hsub : chunk ⊆ current) : (withoutChunk current chunk).length < current.length := by
  obtain ⟨item, rest, rfl⟩ := List.exists_cons_of_ne_nil hne
  apply List.length_filter_lt_length_iff_exists.mpr
  exact ⟨item, hsub List.mem_cons_self, by simp⟩

/-- A nonempty part of a sequence, in its order, with fewer actions. -/
structure Smaller (current candidate : List ActionOccurrence) : Prop where
  nonempty : candidate ≠ []
  sublist : List.Sublist candidate current
  shorter : candidate.length < current.length

theorem smaller_of_mem_chunkCandidates {granularity : Nat} (hne : current ≠ [])
    (h : candidate ∈ chunkCandidates current granularity) : Smaller current candidate := by
  obtain ⟨hmem, hnonempty⟩ := List.mem_filter.mp h
  obtain ⟨chunk, hchunk, rfl⟩ := List.mem_map.mp hmem
  obtain ⟨hchunkne, hsub⟩ := splitIntoChunks_spec hne chunk hchunk
  refine ⟨?_, List.filter_sublist, length_withoutChunk_lt hchunkne hsub⟩
  rintro hnil
  rw [hnil] at hnonempty
  contradiction

theorem smaller_of_mem_singleDeletions
    (hlength : 1 < current.length) (h : candidate ∈ singleDeletions current) :
    Smaller current candidate := by
  obtain ⟨i, hi, rfl⟩ := List.mem_map.mp h
  have hless := List.length_eraseIdx_of_lt (List.mem_range.mp hi)
  refine ⟨?_, List.eraseIdx_sublist .., by omega⟩
  intro hnil
  rw [hnil, List.length_nil] at hless
  omega

section Walks

variable (options : MinimizationOptions W)

/-- What a walk over candidates goes through. -/
inductive Walk : List (List ActionOccurrence) → MinimizerState W → Except JsString Pass →
    MinimizerState W → Prop
  | nil (state : MinimizerState W) : Walk [] state (.ok ⟨[], .completed⟩) state
  | threw {candidate rest state message state'}
      (heval : evaluate options candidate .reducedCandidate state = (.error message, state')) :
      Walk (candidate :: rest) state (.error message) state'
  | exhausted {candidate rest state e state'}
      (heval : evaluate options candidate .reducedCandidate state = (.ok e, state'))
      (hskipped : e.evaluation.disposition = .notEvaluatedBudget) :
      Walk (candidate :: rest) state (.ok ⟨[.notEvaluatedBudget], .exhausted⟩) state'
  | reproduced {candidate rest state e state'}
      (heval : evaluate options candidate .reducedCandidate state = (.ok e, state'))
      (hreproduces : e.evaluation.disposition = .reproduces) :
      Walk (candidate :: rest) state (.ok ⟨[.reproduces], .reproduced candidate⟩) state'
  | next {candidate rest state e state' result state''}
      (heval : evaluate options candidate .reducedCandidate state = (.ok e, state'))
      (hskipped : e.evaluation.disposition ≠ .notEvaluatedBudget)
      (hwalk : Walk rest state' result state'') :
      Walk (candidate :: rest) state
        (result.map fun pass => ⟨e.evaluation.disposition :: pass.dispositions, pass.ending⟩) state''

theorem walk_evaluateEach (candidates : List (List ActionOccurrence)) (state : MinimizerState W) :
    Walk options candidates state (evaluateEach options candidates state).1
      (evaluateEach options candidates state).2 := by
  induction candidates generalizing state with
  | nil => exact .nil state
  | cons candidate rest ih =>
      rw [evaluateEach]
      rcases heval : evaluate options candidate .reducedCandidate state with ⟨message | e, state'⟩
      · exact .threw heval
      · have hnext := ih state'
        cases hdisposition : e.evaluation.disposition with
        | notEvaluatedBudget => simpa only [hdisposition] using .exhausted heval hdisposition
        | reproduces => simpa only [hdisposition] using .reproduced heval hdisposition
        | _ =>
            have hwalk := Walk.next heval (by rw [hdisposition]; decide) hnext
            rw [hdisposition] at hwalk
            simp only [hdisposition]
            generalize evaluateEach options rest state' = later at hwalk ⊢
            obtain ⟨message | pass, state''⟩ := later
            · exact hwalk
            · exact hwalk

variable {options} {candidates : List (List ActionOccurrence)} {state state' : MinimizerState W}
  {result : Except JsString Pass}

theorem Walk.mem_of_reproduced (h : Walk options candidates state result state') :
    ∀ pass candidate, result = .ok pass → pass.ending = .reproduced candidate →
      candidate ∈ candidates := by
  induction h with
  | nil =>
      rintro pass candidate ⟨⟩ hending
      contradiction
  | threw =>
      intro pass candidate hpass
      contradiction
  | exhausted =>
      rintro pass candidate ⟨⟩ hending
      contradiction
  | reproduced =>
      rintro pass candidate ⟨⟩ hending
      cases hending
      exact List.mem_cons_self
  | @next _ _ _ _ _ result _ _ _ _ ih =>
      intro pass candidate hpass hending
      cases result with
      | error message => contradiction
      | ok rest =>
          cases hpass
          exact List.mem_cons_of_mem _ (ih rest candidate rfl hending)

/-- The cache holds an evaluation of the candidate with the disposition. -/
def Judged (state : MinimizerState W) (candidate : List ActionOccurrence)
    (disposition : EvaluationDisposition) : Prop :=
  ∃ e, known state candidate = some e ∧ e.evaluation.disposition = disposition

theorem Judged.mono {candidate : List ActionOccurrence} {disposition : EvaluationDisposition}
    (h : Judged state candidate disposition) (hextends : Extends state state') :
    Judged state' candidate disposition := by
  obtain ⟨e, he, hdisposition⟩ := h
  exact ⟨e, hextends candidate e he, hdisposition⟩

structure Walked (options : MinimizationOptions W) (candidates : List (List ActionOccurrence))
    (state : MinimizerState W) (result : Except JsString Pass) (state' : MinimizerState W) :
    Prop where
  ledger : Ledger options state'
  keeps : Extends state state'
  complete : ∀ pass, result = .ok pass → pass.ending ≠ .exhausted → Complete options state'
  judged : ∀ pass, result = .ok pass → pass.ending = .completed →
    List.Forall₂ (Judged state') candidates pass.dispositions
  reproduced : ∀ pass candidate, result = .ok pass → pass.ending = .reproduced candidate →
    Judged state' candidate .reproduces

theorem Walk.walked (hids : ∀ item ∈ occurrences options, isActionId item.action.actionId = true)
    (h : Walk options candidates state result state') (hledger : Ledger options state)
    (hcomplete : Complete options state) (hproper : ∀ candidate ∈ candidates,
      Proper options candidate) : Walked options candidates state result state' := by
  induction h with
  | nil =>
      refine ⟨hledger, Extends.refl _, fun _ _ _ => hcomplete, ?_, ?_⟩
      · rintro pass ⟨⟩ -
        exact .nil
      · rintro pass candidate ⟨⟩ hending
        contradiction
  | @threw candidate rest state message state' heval =>
      have hevaluated := evaluated_evaluate hids hledger hcomplete (hproper candidate
        List.mem_cons_self)
      rw [heval] at hevaluated
      refine ⟨hevaluated.ledger, hevaluated.keeps, ?_, ?_, ?_⟩
      · intro pass hpass
        contradiction
      · intro pass hpass
        contradiction
      · intro pass candidate hpass
        contradiction
  | @exhausted candidate rest state e state' heval hskipped =>
      have hevaluated := evaluated_evaluate hids hledger hcomplete (hproper candidate
        List.mem_cons_self)
      rw [heval] at hevaluated
      refine ⟨hevaluated.ledger, hevaluated.keeps, ?_, ?_, ?_⟩
      · rintro pass ⟨⟩ hending
        contradiction
      · rintro pass ⟨⟩ hending
        contradiction
      · rintro pass candidate ⟨⟩ hending
        contradiction
  | @reproduced candidate rest state e state' heval hreproduces =>
      have hevaluated := evaluated_evaluate hids hledger hcomplete (hproper candidate
        List.mem_cons_self)
      rw [heval] at hevaluated
      obtain ⟨hcomplete', hknown⟩ := hevaluated.settled e rfl (by rw [hreproduces]; decide)
      refine ⟨hevaluated.ledger, hevaluated.keeps, fun _ _ _ => hcomplete', ?_, ?_⟩
      · rintro pass ⟨⟩ hending
        contradiction
      · rintro pass other ⟨⟩ hending
        cases hending
        exact ⟨e, hknown, hreproduces⟩
  | @next candidate rest state e state' result state'' heval hskipped hwalk ih =>
      have hevaluated := evaluated_evaluate hids hledger hcomplete (hproper candidate
        List.mem_cons_self)
      rw [heval] at hevaluated
      obtain ⟨hcomplete', hknown⟩ := hevaluated.settled e rfl hskipped
      have hrest := ih hevaluated.ledger hcomplete' fun other hother =>
        hproper other (List.mem_cons_of_mem _ hother)
      refine ⟨hrest.ledger, hevaluated.keeps.trans hrest.keeps, ?_, ?_, ?_⟩
      · intro pass hpass hending
        cases result with
        | error message => contradiction
        | ok later =>
            cases hpass
            exact hrest.complete later rfl hending
      · intro pass hpass hending
        cases result with
        | error message => contradiction
        | ok later =>
            cases hpass
            exact .cons ⟨e, hrest.keeps candidate e hknown, rfl⟩ (hrest.judged later rfl hending)
      · intro pass other hpass hending
        cases result with
        | error message => contradiction
        | ok later =>
            cases hpass
            exact hrest.reproduced later other rfl hending

end Walks

section Turns

variable (options : MinimizationOptions W)

/-- What a turn of the reduction does. -/
inductive ReduceTurn (reduction : Reduction) (state : MinimizerState W) :
    Turn (Reduction × MinimizerState W) (Except JsString Reduction × MinimizerState W) → Prop
  | stop (hstop : ¬ (1 < reduction.current.length ∧ reduction.budgetExhausted = false)) :
      ReduceTurn reduction state (.done (.ok reduction, state))
  | threw {message state'} (hlength : 1 < reduction.current.length)
      (hbudget : reduction.budgetExhausted = false)
      (hwalk : Walk options (chunkCandidates reduction.current reduction.granularity) state
        (.error message) state') :
      ReduceTurn reduction state (.done (.error message, state'))
  | exhausted {pass state'} (hlength : 1 < reduction.current.length)
      (hbudget : reduction.budgetExhausted = false)
      (hwalk : Walk options (chunkCandidates reduction.current reduction.granularity) state
        (.ok pass) state')
      (hending : pass.ending = .exhausted) :
      ReduceTurn reduction state (.again ({ reduction with budgetExhausted := true }, state'))
  | reproduced {pass state' candidate} (hlength : 1 < reduction.current.length)
      (hbudget : reduction.budgetExhausted = false)
      (hwalk : Walk options (chunkCandidates reduction.current reduction.granularity) state
        (.ok pass) state')
      (hending : pass.ending = .reproduced candidate) :
      ReduceTurn reduction state (.again ({ reduction with
        current := candidate
        granularity := max 2 (reduction.granularity - 1)
        reduced := true }, state'))
  | finest {pass state'} (hlength : 1 < reduction.current.length)
      (hbudget : reduction.budgetExhausted = false)
      (hwalk : Walk options (chunkCandidates reduction.current reduction.granularity) state
        (.ok pass) state')
      (hending : pass.ending = .completed) :
      ReduceTurn reduction state (.done (.ok reduction, state'))
  | refined {pass state'} (hlength : 1 < reduction.current.length)
      (hbudget : reduction.budgetExhausted = false)
      (hwalk : Walk options (chunkCandidates reduction.current reduction.granularity) state
        (.ok pass) state')
      (hending : pass.ending = .completed) (hcoarse : reduction.granularity < reduction.current.length) :
      ReduceTurn reduction state (.again ({ reduction with
        granularity := min reduction.current.length (reduction.granularity * 2) }, state'))

theorem reduceTurn_spec (reduction : Reduction) (state : MinimizerState W) :
    ReduceTurn options reduction state (reduceTurn options (reduction, state)) := by
  rw [reduceTurn]
  by_cases hgo : (decide (1 < reduction.current.length) && !reduction.budgetExhausted) = true
  · rw [if_pos hgo]
    have hconditions : 1 < reduction.current.length ∧ reduction.budgetExhausted = false := by
      simpa using hgo
    obtain ⟨hlength, hbudget⟩ := hconditions
    have hwalk := walk_evaluateEach options
      (chunkCandidates reduction.current reduction.granularity) state
    generalize evaluateEach options (chunkCandidates reduction.current reduction.granularity)
      state = walked at hwalk ⊢
    obtain ⟨message | ⟨dispositions, ending⟩, state'⟩ := walked
    · exact .threw hlength hbudget hwalk
    · cases ending with
      | exhausted => exact .exhausted hlength hbudget hwalk rfl
      | reproduced candidate => exact .reproduced hlength hbudget hwalk rfl
      | completed =>
          dsimp only
          by_cases hfine : reduction.current.length ≤ reduction.granularity
          · rw [if_pos hfine]
            exact .finest hlength hbudget hwalk rfl
          · rw [if_neg hfine]
            exact .refined hlength hbudget hwalk rfl (by omega)
  · rw [if_neg hgo]
    exact .stop (by simpa using hgo)

/-- What a turn of the audit does. -/
inductive AuditTurn (audit : Audit) (state : MinimizerState W) :
    Turn (Audit × MinimizerState W) (Except JsString Audit × MinimizerState W) → Prop
  | stop (hstop : ¬ (audit.changedInAudit = true ∧ audit.budgetExhausted = false ∧
        1 < audit.current.length)) :
      AuditTurn audit state (.done (.ok audit, state))
  | threw {message state'} (hbudget : audit.budgetExhausted = false)
      (hlength : 1 < audit.current.length)
      (hwalk : Walk options (singleDeletions audit.current) state (.error message) state') :
      AuditTurn audit state (.done (.error message, state'))
  | completed {pass state'} (hchanged : audit.changedInAudit = true)
      (hbudget : audit.budgetExhausted = false) (hlength : 1 < audit.current.length)
      (hwalk : Walk options (singleDeletions audit.current) state (.ok pass) state')
      (hending : pass.ending = .completed) :
      AuditTurn audit state (.again ({ audit with
        changedInAudit := false
        finalPassDispositions := pass.dispositions }, state'))
  | exhausted {pass state'} (hchanged : audit.changedInAudit = true)
      (hbudget : audit.budgetExhausted = false) (hlength : 1 < audit.current.length)
      (hwalk : Walk options (singleDeletions audit.current) state (.ok pass) state')
      (hending : pass.ending = .exhausted) :
      AuditTurn audit state (.again ({ audit with
        changedInAudit := false
        finalPassDispositions := pass.dispositions
        budgetExhausted := true }, state'))
  | reproduced {pass state' candidate} (hchanged : audit.changedInAudit = true)
      (hbudget : audit.budgetExhausted = false) (hlength : 1 < audit.current.length)
      (hwalk : Walk options (singleDeletions audit.current) state (.ok pass) state')
      (hending : pass.ending = .reproduced candidate) :
      AuditTurn audit state (.again ({ audit with
        current := candidate
        changedInAudit := true
        finalPassDispositions := pass.dispositions
        reduced := true }, state'))

theorem auditTurn_spec (audit : Audit) (state : MinimizerState W) :
    AuditTurn options audit state (auditTurn options (audit, state)) := by
  rw [auditTurn]
  by_cases hgo : (audit.changedInAudit && !audit.budgetExhausted &&
      decide (1 < audit.current.length)) = true
  · rw [if_pos hgo]
    have hconditions : audit.changedInAudit = true ∧ audit.budgetExhausted = false ∧
        1 < audit.current.length := by
      simpa [and_assoc] using hgo
    obtain ⟨hchanged, hbudget, hlength⟩ := hconditions
    have hwalk := walk_evaluateEach options (singleDeletions audit.current) state
    generalize evaluateEach options (singleDeletions audit.current) state = walked at hwalk ⊢
    obtain ⟨message | ⟨dispositions, ending⟩, state'⟩ := walked
    · exact .threw hbudget hlength hwalk
    · cases ending with
      | completed => exact .completed hchanged hbudget hlength hwalk rfl
      | exhausted => exact .exhausted hchanged hbudget hlength hwalk rfl
      | reproduced candidate => exact .reproduced hchanged hbudget hlength hwalk rfl
  · rw [if_neg hgo]
    exact .stop (by simpa [and_assoc] using hgo)

end Turns

section Termination

variable (options : MinimizationOptions W)

/-- Rounds that a reduction can still make, for sequences of at most `bound` actions. -/
def reductionMeasure (bound : Nat) (run : Reduction × MinimizerState W) : Nat :=
  if run.1.budgetExhausted then 0
  else run.1.current.length * (bound + 1) + (bound - run.1.granularity) + 1

/-- A reduction of at most `bound` actions. -/
def ReductionBounded (bound : Nat) (run : Reduction × MinimizerState W) : Prop :=
  run.1.current.length ≤ bound ∧ 0 < run.1.granularity

theorem reduceTurn_decreases {bound : Nat} {run run' : Reduction × MinimizerState W}
    (h : ReductionBounded bound run) (hturn : reduceTurn options run = .again run') :
    ReductionBounded bound run' ∧ reductionMeasure bound run' < reductionMeasure bound run := by
  obtain ⟨reduction, state⟩ := run
  obtain ⟨hbound, hpositive⟩ := h
  dsimp only at hbound hpositive
  have hspec := reduceTurn_spec options reduction state
  rw [hturn] at hspec
  cases hspec with
  | exhausted hlength hbudget hwalk hending =>
      refine ⟨⟨hbound, hpositive⟩, ?_⟩
      simp [reductionMeasure, hbudget]
  | @reproduced pass state' candidate hlength hbudget hwalk hending =>
      have hne : reduction.current ≠ [] := List.ne_nil_of_length_pos (by omega)
      have hsmaller := smaller_of_mem_chunkCandidates hne
        (hwalk.mem_of_reproduced pass candidate rfl hending)
      have hshorter := hsmaller.shorter
      refine ⟨⟨by dsimp only; omega, by dsimp only; omega⟩, ?_⟩
      simp only [reductionMeasure, hbudget, Bool.false_eq_true, if_false]
      have hmul : (candidate.length + 1) * (bound + 1) ≤ reduction.current.length * (bound + 1) :=
        Nat.mul_le_mul_right _ hshorter
      rw [Nat.add_mul, Nat.one_mul] at hmul
      omega
  | refined hlength hbudget hwalk hending hcoarse =>
      refine ⟨⟨hbound, by dsimp only; omega⟩, ?_⟩
      simp only [reductionMeasure, hbudget, Bool.false_eq_true, if_false]
      omega

def auditMeasure (run : Audit × MinimizerState W) : Nat :=
  if run.1.changedInAudit && !run.1.budgetExhausted then run.1.current.length + 1 else 0

theorem auditTurn_decreases {run run' : Audit × MinimizerState W}
    (hturn : auditTurn options run = .again run') : auditMeasure run' < auditMeasure run := by
  obtain ⟨audit, state⟩ := run
  have hspec := auditTurn_spec options audit state
  rw [hturn] at hspec
  cases hspec with
  | completed hchanged hbudget hlength hwalk hending => simp [auditMeasure, hchanged, hbudget]
  | exhausted hchanged hbudget hlength hwalk hending => simp [auditMeasure, hchanged, hbudget]
  | @reproduced pass state' candidate hchanged hbudget hlength hwalk hending =>
      have hsmaller := smaller_of_mem_singleDeletions hlength
        (hwalk.mem_of_reproduced pass candidate rfl hending)
      have hshorter := hsmaller.shorter
      simp only [auditMeasure, hchanged, hbudget, Bool.not_false, Bool.and_true, if_true]
      omega

end Termination

end NightWatch.Triage.ReductionLoops
