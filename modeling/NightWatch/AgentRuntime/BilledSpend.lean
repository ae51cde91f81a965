import NightWatch.AgentRuntime.ProviderRuns

namespace NightWatch.AgentRuntime.BilledSpend

open Lib.JsText Lib.JsData Lib.JsDocuments Lib.JsRuntime Lib.Guard Lib.Machine Lib.StepFunction
  AgentProtocol.Vocabulary AgentProtocol.Budget AgentProtocol.Validate AgentRuntime.SpendAdmission
  AgentRuntime.ToolResults AgentRuntime.State AgentRuntime.Checkpoint AgentRuntime.Runtime
  AgentRuntime.Turns AgentRuntime.LogRuns AgentRuntime.Resumption
open AgentRuntime.ProviderRuns (usage_of_resume)
open AgentRuntime.Exhaustion (sampleDeps emptyArgumentsDigest)

section Bills

/-- A dispatched call: the bytes of its request, and those that the driver reported when it
returned a result. -/
structure Call where
  rendered : Nat
  reported : Option Nat

structure Bill where
  inputTokens : ℚ
  outputTokens : ℚ

variable (ceiling : SpendCeiling)

/-- What a provider may bill for a call. -/
structure Allows (call : Call) (bill : Bill) : Prop where
  input : bill.inputTokens ≤ worstCaseTokensForBytes ceiling call.rendered
  bound : bill.outputTokens ≤ ceiling.maxOutputTokensPerCall
  output : ∀ bytes, call.reported = some bytes →
    bill.outputTokens ≤ worstCaseTokensForBytes ceiling bytes

def billUsd (bill : Bill) : ℚ :=
  tokenCostUsd bill.inputTokens ceiling.rateCard.inputUsdPerMillionTokens +
    tokenCostUsd bill.outputTokens ceiling.rateCard.outputUsdPerMillionTokens

def billedUsd (bills : List Bill) : ℚ := (bills.map (billUsd ceiling)).sum

def worstBill (call : Call) : Bill where
  inputTokens := worstCaseTokensForBytes ceiling call.rendered
  outputTokens :=
    match call.reported with
    | none => ceiling.maxOutputTokensPerCall
    | some bytes => min ceiling.maxOutputTokensPerCall (worstCaseTokensForBytes ceiling bytes)

def worstUsd (calls : List Call) : ℚ := billedUsd ceiling (calls.map (worstBill ceiling))

variable {ceiling}

theorem billUsd_le (hin : 0 ≤ ceiling.rateCard.inputUsdPerMillionTokens)
    (hout : 0 ≤ ceiling.rateCard.outputUsdPerMillionTokens) {a b : Bill}
    (hinput : a.inputTokens ≤ b.inputTokens) (houtput : a.outputTokens ≤ b.outputTokens) :
    billUsd ceiling a ≤ billUsd ceiling b :=
  add_le_add (tokenCostUsd_mono hinput hin) (tokenCostUsd_mono houtput hout)

theorem Allows.le_worst {call : Call} {bill : Bill} (h : Allows ceiling call bill) :
    bill.inputTokens ≤ (worstBill ceiling call).inputTokens ∧
      bill.outputTokens ≤ (worstBill ceiling call).outputTokens := by
  refine ⟨h.input, ?_⟩
  cases hreported : call.reported with
  | none =>
      rw [worstBill, hreported]
      exact h.bound
  | some bytes =>
      rw [worstBill, hreported]
      exact le_min h.bound (h.output bytes hreported)

theorem billedUsd_le_worst (hin : 0 ≤ ceiling.rateCard.inputUsdPerMillionTokens)
    (hout : 0 ≤ ceiling.rateCard.outputUsdPerMillionTokens) {calls : List Call}
    {bills : List Bill} (h : List.Forall₂ (Allows ceiling) calls bills) :
    billedUsd ceiling bills ≤ worstUsd ceiling calls := by
  induction h with
  | nil => exact le_rfl
  | cons hallows hrest ih =>
      obtain ⟨hinput, houtput⟩ := hallows.le_worst
      exact add_le_add (billUsd_le hin hout hinput houtput) ih

theorem worstUsd_cons (call : Call) (calls : List Call) : worstUsd ceiling (call :: calls) =
      billUsd ceiling (worstBill ceiling call) + worstUsd ceiling calls := rfl

theorem billUsd_dispatched (rendered : Nat) : billUsd ceiling (worstBill ceiling ⟨rendered, none⟩) =
      worstCaseCallCostUsd ceiling rendered := rfl

theorem billUsd_reported_le (hin : 0 ≤ ceiling.rateCard.inputUsdPerMillionTokens)
    (hout : 0 ≤ ceiling.rateCard.outputUsdPerMillionTokens) (rendered bytes : Nat) :
    billUsd ceiling (worstBill ceiling ⟨rendered, some bytes⟩) ≤
      billUsd ceiling (worstBill ceiling ⟨rendered, none⟩) :=
  billUsd_le hin hout le_rfl (min_le_left _ _)

def renderedBytes (calls : List Call) : Nat := (calls.map Call.rendered).sum

def reportedBytes (calls : List Call) : Nat := (calls.map fun call => call.reported.getD 0).sum

def isReported (call : Call) : Bool := call.reported.isSome

theorem billUsd_le_committed (hout : 0 ≤ ceiling.rateCard.outputUsdPerMillionTokens) {call : Call}
    (h : isReported call = true ∨ ceiling.rateCard.outputUsdPerMillionTokens = 0) :
    billUsd ceiling (worstBill ceiling call) ≤
      committedSpendUsd ceiling call.rendered (call.reported.getD 0) := by
  rw [billUsd, committedSpendUsd]
  refine add_le_add le_rfl ?_
  rcases h with hreported | hfree
  · obtain ⟨bytes, hbytes⟩ := Option.isSome_iff_exists.mp hreported
    rw [worstBill, hbytes]
    exact tokenCostUsd_mono (min_le_right _ _) hout
  · rw [hfree, tokenCostUsd, tokenCostUsd, mul_zero, mul_zero]

theorem worstUsd_le_committed (hout : 0 ≤ ceiling.rateCard.outputUsdPerMillionTokens)
    {calls : List Call}
    (h : calls.all isReported = true ∨ ceiling.rateCard.outputUsdPerMillionTokens = 0) :
    worstUsd ceiling calls ≤
      committedSpendUsd ceiling (renderedBytes calls) (reportedBytes calls) := by
  induction calls with
  | nil =>
      change (0 : ℚ) ≤ _
      simp [committedSpendUsd, renderedBytes, reportedBytes, worstCaseTokensForBytes, tokenCostUsd]
  | cons call calls ih =>
      rw [List.all_cons, Bool.and_eq_true] at h
      have hcall : isReported call = true ∨ ceiling.rateCard.outputUsdPerMillionTokens = 0 :=
        h.imp_left And.left
      have hsum : committedSpendUsd ceiling (renderedBytes (call :: calls))
          (reportedBytes (call :: calls)) =
            committedSpendUsd ceiling call.rendered (call.reported.getD 0) +
              committedSpendUsd ceiling (renderedBytes calls) (reportedBytes calls) := by
        have hbytes : reportedBytes (call :: calls) =
          call.reported.getD 0 + reportedBytes calls := rfl
        have hrendered : renderedBytes (call :: calls) = call.rendered + renderedBytes calls := rfl
        rw [hbytes, hrendered]
        simp only [committedSpendUsd, worstCaseTokensForBytes_add, tokenCostUsd_add]
        ring
      rw [worstUsd_cons, hsum]
      exact add_le_add (billUsd_le_committed hout hcall) (ih (h.imp_left And.right))

end Bills

/-- The calls of a history, the last one first, and whether each was dispatched when all
before it had been reported. -/
structure Register where
  calls : List Call
  settled : Bool

def report (bytes : Nat) : List Call → List Call
  | [] => []
  | call :: calls => { call with reported := some bytes } :: calls

def Register.note (r : Register) : Event → Register
  | .dispatch sizes => ⟨⟨sizes.rendered, none⟩ :: r.calls, r.settled && r.calls.all isReported⟩
  | .failed stdoutBytes stderrBytes _ =>
      { r with calls := report (stdoutBytes + stderrBytes) r.calls }
  | .answered stdoutBytes stderrBytes _ =>
      { r with calls := report (stdoutBytes + stderrBytes) r.calls }
  | _ => r

def register (history : List Event) : Register := history.foldl Register.note ⟨[], true⟩

theorem register_concat (history : List Event) (e : Event) :
    register (history ++ [e]) = (register history).note e := by
  rw [register, List.foldl_append]
  rfl

section Restoring

variable {rt : Runtime} {state : AgentRuntimeState} {fields : Fields} {checkpoint : AgentCheckpoint}

theorem ledger_of_parseRuntimeState
    (h : parseRuntimeState (.obj (stateFields state)) = .ok fields) :
    JsValue.field fields "byteLedger".toList = ledgerDocument state.byteLedger ∧
      state.byteLedger.isSafe = true := by
  rw [parseRuntimeState, field_stateFields_budget, field_stateFields_ledger] at h
  simp only [bind_eq_ok] at h
  obtain ⟨-, -, _, hledger, -, -, ⟨policy, usage⟩, -, hstate⟩ := h
  have hv2 : isBudgetV1 (subfield (budgetDocument state.policy state.usage) "policy".toList) =
    false := isBudgetV1_policyFields state.policy
  obtain rfl := Except.ok.inj hstate
  constructor
  · rw [hv2, if_neg (by decide), JsValue.field, lookup_mapSet, if_neg (by decide)]
    exact field_stateFields_ledger state
  · have hpresent : (ledgerDocument state.byteLedger).isNullish = false := rfl
    rw [checkLedger, hpresent, hv2] at hledger
    simp only [Bool.false_eq_true, if_false, bind_eq_ok, require_eq_ok] at hledger
    obtain ⟨-, hsafe, -⟩ := hledger
    rwa [isAgentByteLedger_document] at hsafe

theorem ledger_of_readState
    {ledger : AgentByteLedger} (h : readState fields = some state)
    (hledger : JsValue.field fields "byteLedger".toList = ledgerDocument ledger) :
    state.byteLedger = ledger := by
  have hread : readNullish readLedger (JsValue.field fields "byteLedger".toList) =
      some (some ledger) := by
    rw [hledger, readNullish_of_not_nullish rfl, recovers_ledger, Option.map_some]
  exact (reads_of_readState h).byteLedger ledger hread

theorem ledger_of_resume {deps : AgentRuntimeDeps} {object : RuntimeObject}
    (h : resumeFromCheckpoint rt (checkpointDocument checkpoint) deps = some object) :
    object.byteLedger = checkpoint.state.byteLedger ∧ object.deps = deps := by
  obtain ⟨fields, state, completedTurns, hfields, hstate, rfl⟩ := restored_of_resume h
  obtain ⟨hledger, hsafe⟩ := ledger_of_parseRuntimeState hfields
  have hread := ledger_of_readState hstate hledger
  refine ⟨?_, rfl⟩
  change Checkpoint.ledgerOf state = _
  rw [Checkpoint.ledgerOf, hread, if_pos hsafe]

/-- What a state hands to the object that resumes from it. -/
def handed (state : AgentRuntimeState) :
    (AgentPhase × List AgentHypothesis × List AgentProtocol.Actions.AgentActionRecord) ×
      (List JsString × List JsString × List JsString) × AgentBudgetUsage :=
  ((state.phase, state.hypotheses, state.actionLog),
    (state.evidenceRefs, state.candidateIds, state.knownTargets), state.usage)

theorem handed_of_resume {deps : AgentRuntimeDeps} {resumed : RuntimeObject}
    (h : resumeFromCheckpoint rt (checkpointDocument checkpoint) deps = some resumed) :
    handed resumed.snapshot = handed checkpoint.state := by
  have hlog := log_of_resume h
  have husage := usage_of_resume h
  obtain ⟨fields, state, completedTurns, hfields, hstate, rfl⟩ := restored_of_resume h
  have hfield : ∀ name : JsString, name ≠ "budget".toList → name ≠ "byteLedger".toList →
      JsValue.field fields name = JsValue.field (stateFields checkpoint.state) name :=
    fun _ => field_of_parseRuntimeState hfields
  have hreads := reads_of_readState hstate
  have hphase : state.phase = checkpoint.state.phase :=
    (recovers_phase _).unique hreads.phase (hfield _ (by decide) (by decide))
  have hhypotheses : state.hypotheses = checkpoint.state.hypotheses :=
    (recovers_list fun hypothesis _ => recovers_hypothesis hypothesis).unique hreads.hypotheses
      (hfield _ (by decide) (by decide))
  have hrefs : state.evidenceRefs = checkpoint.state.evidenceRefs :=
    (recovers_texts _).unique hreads.evidenceRefs (hfield _ (by decide) (by decide))
  have hids : state.candidateIds = checkpoint.state.candidateIds :=
    (recovers_texts _).unique hreads.candidateIds (hfield _ (by decide) (by decide))
  have htargets : state.knownTargets = checkpoint.state.knownTargets := by
    refine hreads.knownTargets _ ?_
    rw [hfield _ (by decide) (by decide)]
    exact (readNullish_of_not_nullish rfl).trans (congrArg _ (recovers_texts _))
  rw [handed, RuntimeObject.snapshot, hlog, husage]
  change ((state.phase, state.hypotheses, _), (state.evidenceRefs, state.candidateIds,
    state.knownTargets), _) = _
  rw [hphase, hhypotheses, hrefs, hids, htargets]
  rfl

/-- The object of the last process, each resumed from the checkpoint of the one before. -/
def reopened (rt : Runtime) : List AgentRuntimeDeps → RuntimeObject → Option RuntimeObject
  | [], object => some object
  | deps :: later, object =>
      (object.checkpoint rt).2.bind fun checkpoint =>
        (resumeFromCheckpoint rt (checkpointDocument checkpoint) deps).bind (reopened rt later)

/-- Whatever is resumed in the end has learned and spent what the first object had. -/
theorem resume_inherits (later : List AgentRuntimeDeps) (object : RuntimeObject) :
    (reopened rt later object).map (fun last => handed last.snapshot) =
      (reopened rt later object).map fun _ => handed object.snapshot := by
  induction later generalizing object with
  | nil => rfl
  | cons deps later ih =>
      rw [reopened]
      cases hsaved : (object.checkpoint rt).2 with
      | none => rfl
      | some checkpoint =>
          rw [Option.bind_some]
          cases hresumed : resumeFromCheckpoint rt (checkpointDocument checkpoint) deps with
          | none => rfl
          | some resumed =>
              obtain ⟨byteLedger, -, hstate⟩ := checkpoint_frame rt object
              have hsame : handed resumed.snapshot = handed object.snapshot := by
                rw [handed_of_resume hresumed, hstate checkpoint hsaved]
                rfl
              rw [Option.bind_some, ih, hsame]

end Restoring

section Books

variable {rt : Runtime} {ceiling : SpendCeiling} {calls : List Call}

/-- What the admission of a call reads of the object, and the usage that a lost ledger is
rebuilt from. -/
def books (o : RuntimeObject) : Option SpendCeiling × Nat × Nat × Nat × Nat :=
  (o.deps.spendCeiling, chargedInputBytes o.byteLedger, chargedOutputBytes o.byteLedger,
    o.usage.inputBytes, o.usage.outputBytes)

/-- The ledger and the usage count the bytes of the calls. -/
def Booked (ceiling : SpendCeiling) (calls : List Call) (o : RuntimeObject) : Prop :=
  books o = (some ceiling, renderedBytes calls, reportedBytes calls, renderedBytes calls,
    reportedBytes calls)

variable (o : RuntimeObject)

theorem books_refreshWallTime (now : ℤ) : books (o.refreshWallTime now) = books o := by
  unfold RuntimeObject.refreshWallTime
  split
  · rfl
  · rfl

theorem books_formDrafts (drafts : List ReasonerHypothesisDraft) :
    books (o.formDrafts drafts) = books o := by
  obtain ⟨hypotheses, evidenceRefs, hframe⟩ := formDrafts_frame o drafts
  rw [hframe]
  rfl

theorem books_applyIntent (turnId : JsString) (intent : AgentIntent) :
    books (o.applyIntent turnId intent).1 = books o := by
  obtain ⟨hypotheses, actionLog, evidenceRefs, candidateIds, candidateCount, hframe⟩ :=
    applyIntent_frame o turnId intent
  rw [hframe]
  rfl

theorem books_closeTurn (turn : Turn) : books (closeTurn o turn).1 = books o := by
  obtain ⟨actionLog, hframe⟩ := closeTurn_frame o turn
  rw [hframe]
  rfl

theorem books_unpaused : books (RuntimeObject.unpaused o) = books o := by
  obtain ⟨status, terminationReason, hframe⟩ := unpaused_frame o
  rw [hframe]
  rfl

variable (rt) in
theorem Booked.chargeTool {o : RuntimeObject} (h : Booked ceiling calls o)
    (result : AgentToolResult) : Booked ceiling calls (o.chargeTool rt result) := by
  have houtput : o.usage.outputBytes = chargedOutputBytes o.byteLedger := by
    simp only [Booked, books, Prod.mk.injEq] at h
    obtain ⟨-, -, hledger, -, husage⟩ := h
    rw [hledger, husage]
  have hsame : books (o.chargeTool rt result) = books o := by
    rw [books, books, houtput]
    unfold RuntimeObject.chargeTool
    dsimp only
    split
    · rfl
    · rfl
  rw [Booked, hsame]
  exact h

variable (rt) in
theorem Booked.applyToolResult {o : RuntimeObject} (h : Booked ceiling calls o)
    (turnId : JsString) (tool : AgentToolId) (argumentDigest : JsString)
    (result : AgentToolResult) :
    Booked ceiling calls (o.applyToolResult rt turnId tool argumentDigest result) := by
  have hcharged : Booked ceiling calls (o.chargeTool rt result) := h.chargeTool rt result
  obtain ⟨hypotheses, actionLog, evidenceRefs, pendingUntrusted, knownTargets,
    reproductionSurface, hframe⟩ := applyToolResult_frame rt o turnId tool argumentDigest result
  rw [hframe]
  exact hcharged

def SavedBooked (calls : List Call) (saved : Option AgentCheckpoint) : Prop :=
  ∀ checkpoint, saved = some checkpoint →
    (chargedInputBytes checkpoint.state.byteLedger, chargedOutputBytes checkpoint.state.byteLedger,
      checkpoint.state.usage.inputBytes, checkpoint.state.usage.outputBytes) =
        (renderedBytes calls, reportedBytes calls, renderedBytes calls, reportedBytes calls)

theorem savedBooked_none : SavedBooked calls none := by
  intro checkpoint h
  contradiction

variable (rt) in
theorem Booked.checkpoint {o : RuntimeObject} (h : Booked ceiling calls o) :
    Booked ceiling calls (o.checkpoint rt).1 ∧ SavedBooked calls (o.checkpoint rt).2 := by
  simp only [Booked, books, Prod.mk.injEq] at h
  obtain ⟨hceiling, hin, hout, hinput, houtput⟩ := h
  have hledger : chargedInputBytes (Checkpoint.ledgerOf o.snapshot) = renderedBytes calls ∧
      chargedOutputBytes (Checkpoint.ledgerOf o.snapshot) = reportedBytes calls := by
    rw [Checkpoint.ledgerOf]
    split
    · exact ⟨hin, hout⟩
    · exact ⟨hinput, houtput⟩
  unfold RuntimeObject.checkpoint
  cases hcreate : createCheckpoint rt o.snapshot o.completedTurns with
  | error e =>
      refine ⟨?_, savedBooked_none⟩
      simp only [Booked, books, hceiling, hin, hout, hinput, houtput]
  | ok checkpoint =>
      obtain ⟨bytes, hstate⟩ := state_of_createCheckpoint hcreate
      have hin' : chargedInputBytes checkpoint.state.byteLedger = renderedBytes calls := by
        rw [hstate]
        exact hledger.1
      have hout' : chargedOutputBytes checkpoint.state.byteLedger = reportedBytes calls := by
        rw [hstate]
        exact hledger.2
      constructor
      · simp only [Booked, books, hceiling, hin', hout', hinput, houtput]
      · rintro _ ⟨⟩
        rw [hin', hout', hstate]
        exact Prod.ext rfl (Prod.ext rfl (Prod.ext hinput houtput))

variable (rt) in
theorem Booked.finish {o : RuntimeObject} (h : Booked ceiling calls o) (outcome : TerminalOutcome)
    (now : ℤ) : Booked ceiling calls (finish rt o outcome now).1 ∧
      SavedBooked calls (finish rt o outcome now).2 := by
  have hclosed : Booked ceiling calls (RuntimeObject.close (o.refreshWallTime now) outcome) :=
    (books_refreshWallTime o now).trans h
  unfold Turns.finish
  split
  · exact hclosed.checkpoint rt
  · exact ⟨hclosed, savedBooked_none⟩

theorem booked_of_resume {checkpoint : AgentCheckpoint} {deps : AgentRuntimeDeps}
    {object : RuntimeObject}
    (hresumed : resumeFromCheckpoint rt (checkpointDocument checkpoint) deps = some object)
    (hsaved : SavedBooked calls (some checkpoint)) (hceiling : deps.spendCeiling = some ceiling) :
    Booked ceiling calls object := by
  obtain ⟨hledger, hdeps⟩ := ledger_of_resume hresumed
  have husage := usage_of_resume hresumed
  rw [Booked, books, hledger, hdeps, husage, hceiling]
  exact congrArg (Prod.mk (some ceiling)) (hsaved checkpoint rfl)

end Books

section Runs

variable {rt : Runtime} {argumentDigest : Fields → JsString} {ceiling : SpendCeiling}

def keepsCeiling (ceiling : SpendCeiling) : Event → Bool
  | .restore deps => deps.spendCeiling = some ceiling
  | _ => true

def isCalling : Control → Bool
  | .calling _ => true
  | _ => false

variable (o : RuntimeObject)

theorem isCalling_enterTurn (maxTurns : JsNumber) : isCalling (enterTurn o maxTurns) = false := by
  unfold enterTurn
  split_ifs
  · rfl
  · rfl
  · rfl

theorem isCalling_closeTurn (turn : Turn) : isCalling (closeTurn o turn).2 = false := by
  unfold closeTurn
  split_ifs
  · rfl
  · rfl
  · rfl

theorem isCalling_afterFailure (turn : Turn) (failure : ReasonerFailureClass) :
    isCalling (afterFailure turn failure) = false := by
  unfold afterFailure
  split
  · rfl
  · rfl

theorem isCalling_afterIntent (turn : Turn) (rest : List AgentIntent)
    (replanned : Bool) (outcome : IntentOutcome) :
    isCalling (afterIntent o turn rest replanned outcome) = false := by
  cases outcome with
  | continues =>
      rw [afterIntent]
      split
      · rfl
      · rfl
  | _ => rfl

/-- Every call is dispatched when those before it have been reported, or output is free. -/
def Settled (ceiling : SpendCeiling) (r : Register) : Prop :=
  r.settled = true ∨ ceiling.rateCard.outputUsdPerMillionTokens = 0

/-- The register of a run beside its state. -/
structure Metered (ceiling : SpendCeiling) (r : Register) (s : State) : Prop where
  booked : Booked ceiling r.calls s.object
  saved : SavedBooked r.calls s.saved
  pending : isCalling s.control = true → ∃ rendered earlier, r.calls = ⟨rendered, none⟩ :: earlier
  within : Settled ceiling r → worstUsd ceiling r.calls ≤ ceiling.maxSpendUsd
  valid : r.calls ≠ [] → validateSpendCeiling ceiling = true

variable {r : Register} {s s' : State}

theorem rates_nonneg (h : validateSpendCeiling ceiling = true) :
    0 ≤ ceiling.rateCard.inputUsdPerMillionTokens ∧
      0 ≤ ceiling.rateCard.outputUsdPerMillionTokens := by
  simp only [validateSpendCeiling, Bool.and_eq_true, decide_eq_true_eq] at h
  obtain ⟨⟨⟨⟨⟨⟨⟨-, hin⟩, hout⟩, -⟩, -⟩, -⟩, -⟩, -⟩ := h
  exact ⟨hin, hout⟩

theorem Metered.same (h : Metered ceiling r s) (hbooked : Booked ceiling r.calls s'.object)
    (hsaved : SavedBooked r.calls s'.saved)
    (hcontrol : isCalling s'.control = false ∨ s'.control = s.control) : Metered ceiling r s' := by
  refine ⟨hbooked, hsaved, ?_, h.within, h.valid⟩
  intro hcalling
  rcases hcontrol with hother | hsame
  · rw [hother] at hcalling
    contradiction
  · exact h.pending (hsame ▸ hcalling)

theorem Metered.dispatch (h : Metered ceiling r s) {sizes : RequestSizes}
    (hadmits : s.object.admits sizes = true)
    (hobject : s'.object = s.object.buildRequest.chargeRequest sizes) (hsaved : s'.saved = none) :
    Metered ceiling (r.note (.dispatch sizes)) s' := by
  have hbooks := h.booked
  simp only [Booked, books, Prod.mk.injEq] at hbooks
  obtain ⟨hceiling, hin, hout, hinput, houtput⟩ := hbooks
  have hadmitted : admitProviderCall ceiling sizes.rendered (renderedBytes r.calls)
      (reportedBytes r.calls) = true := by
    rw [RuntimeObject.admits, hceiling, hin, hout] at hadmits
    exact hadmits
  rw [admitProviderCall, Bool.and_eq_true, decide_eq_true_eq] at hadmitted
  obtain ⟨hvalid, hfits⟩ := hadmitted
  refine ⟨?_, ?_, fun _ => ⟨_, _, rfl⟩, ?_, fun _ => hvalid⟩
  · have hrendered : chargedInputBytes s'.object.byteLedger =
        renderedBytes (⟨sizes.rendered, none⟩ :: r.calls) := by
      rw [hobject]
      change s.object.byteLedger.legacyInputBytes +
        (s.object.byteLedger.renderedInputBytes + sizes.rendered) =
          sizes.rendered + renderedBytes r.calls
      rw [← hin, chargedInputBytes]
      omega
    have hreported : reportedBytes (⟨sizes.rendered, none⟩ :: r.calls) = reportedBytes r.calls :=
      Nat.zero_add _
    have husage : s'.object.usage.inputBytes = chargedInputBytes s'.object.byteLedger := by
      rw [hobject]
      rfl
    have hkept : s'.object.deps.spendCeiling = some ceiling ∧
        chargedOutputBytes s'.object.byteLedger = reportedBytes r.calls ∧
          s'.object.usage.outputBytes = reportedBytes r.calls := by
      rw [hobject]
      exact ⟨hceiling, hout, houtput⟩
    have hcalls : (r.note (.dispatch sizes)).calls = ⟨sizes.rendered, none⟩ :: r.calls := rfl
    rw [Booked, hcalls, hreported, books, husage, hrendered, hkept.1, hkept.2.1, hkept.2.2]
  · rw [hsaved]
    exact savedBooked_none
  · intro hsettled
    have hreported : r.calls.all isReported = true ∨
        ceiling.rateCard.outputUsdPerMillionTokens = 0 := by
      refine hsettled.imp_left ?_
      intro hboth
      exact ((Bool.and_eq_true _ _).mp hboth).2
    have hcommitted := worstUsd_le_committed (rates_nonneg hvalid).2 hreported
    change billUsd ceiling (worstBill ceiling ⟨sizes.rendered, none⟩) +
      worstUsd ceiling r.calls ≤ ceiling.maxSpendUsd
    rw [billUsd_dispatched]
    linarith

theorem Metered.reported (h : Metered ceiling r s) (hcalling : isCalling s.control = true)
    (stdoutBytes stderrBytes : Nat)
    (hobject : books s'.object = books (s.object.chargeResponse stdoutBytes stderrBytes))
    (hsaved : s'.saved = none) (hcontrol : isCalling s'.control = false) :
    Metered ceiling { r with calls := report (stdoutBytes + stderrBytes) r.calls } s' := by
  obtain ⟨rendered, earlier, hcalls⟩ := h.pending hcalling
  have hbooks := h.booked
  have hwithin := h.within
  have hvalid := h.valid (by rw [hcalls]; exact List.cons_ne_nil _ _)
  obtain ⟨hinRate, houtRate⟩ := rates_nonneg hvalid
  simp only [Booked, books, Prod.mk.injEq] at hbooks
  obtain ⟨hceiling, hin, hout, hinput, houtput⟩ := hbooks
  rw [hcalls] at hin hout hinput houtput hwithin
  rw [hcalls]
  refine ⟨?_, ?_, ?_, ?_, fun _ => hvalid⟩
  · have hreported : chargedOutputBytes
        (s.object.chargeResponse stdoutBytes stderrBytes).byteLedger =
          reportedBytes (⟨rendered, some (stdoutBytes + stderrBytes)⟩ :: earlier) := by
      have hearlier : reportedBytes (⟨rendered, none⟩ :: earlier) = reportedBytes earlier :=
        Nat.zero_add _
      change s.object.byteLedger.legacyOutputBytes +
        (s.object.byteLedger.providerResponseBytes + stdoutBytes) +
          (s.object.byteLedger.providerStderrBytes + stderrBytes) =
            stdoutBytes + stderrBytes + reportedBytes earlier
      rw [hearlier, chargedOutputBytes] at hout
      omega
    have hcharged : books (s.object.chargeResponse stdoutBytes stderrBytes) =
        (s.object.deps.spendCeiling, chargedInputBytes s.object.byteLedger,
          chargedOutputBytes (s.object.chargeResponse stdoutBytes stderrBytes).byteLedger,
          s.object.usage.inputBytes,
          chargedOutputBytes (s.object.chargeResponse stdoutBytes stderrBytes).byteLedger) := rfl
    rw [Booked, hobject, hcharged, hreported, hceiling, hin, hinput]
    rfl
  · rw [hsaved]
    exact savedBooked_none
  · intro hstill
    rw [hcontrol] at hstill
    contradiction
  · intro hsettled
    refine le_trans ?_ (hwithin hsettled)
    exact add_le_add (billUsd_reported_le hinRate houtRate rendered _) le_rfl

theorem Metered.step {e : Event} (h : Metered ceiling r s) (hmove : Move rt s e s')
    (hkeeps : keepsCeiling ceiling e = true) : Metered ceiling (r.note e) s' := by
  have hbooked := h.booked
  cases hmove with
  | run | runCancelled | haltCancelled | haltPaused | throwCancelled | execute | slept
  | sleepThrow | executorThrow | intentsDone | stop | refuse | driverThrow =>
      exact h.same hbooked savedBooked_none (.inl rfl)
  | discard id hdiscards =>
      refine h.same hbooked savedBooked_none (.inl ?_)
      exact isCalling_afterIntent _ _ _ _ .continues
  | pause | cancel => exact h.same hbooked savedBooked_none (.inr rfl)
  | loopHead now =>
      exact h.same ((books_refreshWallTime _ now).trans hbooked) savedBooked_none
        (.inl (isCalling_enterTurn _ _))
  | dispatch sizes hadmits => exact h.dispatch hadmits rfl rfl
  | failed stdoutBytes stderrBytes failure =>
      exact h.reported rfl stdoutBytes stderrBytes rfl rfl (isCalling_afterFailure _ failure)
  | answeredNothing stdoutBytes stderrBytes response =>
      exact h.reported rfl stdoutBytes stderrBytes rfl rfl rfl
  | blocked stdoutBytes stderrBytes response failure =>
      exact h.reported rfl stdoutBytes stderrBytes rfl rfl rfl
  | rejected stdoutBytes stderrBytes response failure =>
      exact h.reported rfl stdoutBytes stderrBytes rfl rfl (isCalling_afterFailure _ failure)
  | accepted stdoutBytes stderrBytes response accepted =>
      exact h.reported rfl stdoutBytes stderrBytes (books_formDrafts _ accepted.hypotheses) rfl rfl
  | applyIntent intent hintent =>
      exact h.same ((books_applyIntent _ _ intent).trans hbooked) savedBooked_none
        (.inl (isCalling_afterIntent _ _ _ _ _))
  | executed call raw =>
      refine h.same (hbooked.applyToolResult rt _ _ _ _) savedBooked_none (.inl ?_)
      exact isCalling_afterIntent _ _ _ _ .continues
  | turnEnd now =>
      refine h.same ?_ savedBooked_none (.inl (isCalling_closeTurn _ _))
      exact (books_closeTurn _ _).trans ((books_refreshWallTime _ now).trans hbooked)
  | finish now =>
      obtain ⟨hfinished, hsaved⟩ := hbooked.finish rt _ now
      exact h.same hfinished hsaved (.inl rfl)
  | resume hwaits =>
      exact h.same ((books_unpaused s.object).trans hbooked) savedBooked_none (.inr rfl)
  | checkpoint hwaits =>
      obtain ⟨hkept, hsaved⟩ := hbooked.checkpoint rt
      exact h.same hkept hsaved (.inr rfl)
  | @restore _ saved object deps hwaits hpresent hresumed =>
      have hsaved : SavedBooked r.calls (some saved) := hpresent ▸ h.saved
      exact h.same (booked_of_resume hresumed hsaved (of_decide_eq_true hkeeps)) savedBooked_none
        (.inl rfl)

variable {deps : AgentRuntimeDeps} {clock : ℤ} {history : List Event}

theorem metered_of_run (hmax : 0 ≤ ceiling.maxSpendUsd) (hdeps : deps.spendCeiling = some ceiling)
    (hrun : Run ((runtimeSystem rt argumentDigest (.create deps) clock).guarded fun _ e =>
      keepsCeiling ceiling e = true) history s) : Metered ceiling (register history) s := by
  have hstart : Metered ceiling (register []) ⟨.create deps, .idle, none, clock⟩ := by
    refine ⟨?_, savedBooked_none, ?_, fun _ => hmax, fun hne => absurd rfl hne⟩
    · exact congrArg (fun declared => (declared, 0, 0, 0, 0)) hdeps
    · intro hcalling
      contradiction
  refine hrun.invariant (P := fun history s => Metered ceiling (register history) s) hstart ?_
  rintro past before e after hpast ⟨hadvance, hkeeps⟩
  rw [register_concat]
  exact hpast.step (move_of_advance hadvance) hkeeps

/-- While every call is dispatched only when the driver has returned a result for those before
it, or output is free, no provider bills more than the ceiling. -/
theorem billed_spend_within (hmax : 0 ≤ ceiling.maxSpendUsd)
    (hdeps : deps.spendCeiling = some ceiling)
    (hrun : Run ((runtimeSystem rt argumentDigest (.create deps) clock).guarded fun _ e =>
      keepsCeiling ceiling e = true) history s) (hsettled : Settled ceiling (register history)) :
    ∀ bills, List.Forall₂ (Allows ceiling) (register history).calls bills →
      billedUsd ceiling bills ≤ ceiling.maxSpendUsd := by
  intro bills hbills
  have hmetered := metered_of_run hmax hdeps hrun
  by_cases hnone : (register history).calls = []
  · rw [hnone] at hbills
    cases hbills
    exact hmax
  · obtain ⟨hin, hout⟩ := rates_nonneg (hmetered.valid hnone)
    exact (billedUsd_le_worst hin hout hbills).trans (hmetered.within hsettled)

end Runs

def oneCallCeiling : SpendCeiling where
  maxSpendUsd := 1
  rateCard := ⟨0, 1000⟩
  maxOutputTokensPerCall := 1000
  maxBytesPerToken := 4
  worstCaseTokensPerByte := 1
  provider := "provider".toList
  model := "model".toList

def meteredDeps : AgentRuntimeDeps := { sampleDeps with spendCeiling := some oneCallCeiling }

def meteredStart : State := ⟨.create meteredDeps, .idle, none, 0⟩

def oneCall : List Event :=
  [.run none 0, .loopHead 0, .dispatch ⟨0, 0, 0⟩, .failed 10 0 .timeout]

theorem billed_spend_within_oneCall :
    List.Forall₂ (Allows oneCallCeiling) (register oneCall).calls [⟨0, 10⟩] ∧
      billedUsd oneCallCeiling [⟨0, 10⟩] ≤ oneCallCeiling.maxSpendUsd := by
  have hevaluated : (evaluate (restrict (advance plainRuntime emptyArgumentsDigest) fun _ e =>
      keepsCeiling oneCallCeiling e = true) meteredStart oneCall).isSome = true := by
    decide +kernel
  obtain ⟨s, hs⟩ := Option.isSome_iff_exists.mp hevaluated
  have hmax : 0 ≤ oneCallCeiling.maxSpendUsd := by decide +kernel
  have hdeps : meteredDeps.spendCeiling = some oneCallCeiling := rfl
  have hallows : Allows oneCallCeiling ⟨0, some 10⟩ ⟨0, 10⟩ := by
    refine ⟨?_, by decide +kernel, ?_⟩
    · exact (zero_mul _).ge
    · rintro bytes ⟨⟩
      decide +kernel
  have hbills : List.Forall₂ (Allows oneCallCeiling) (register oneCall).calls [⟨0, 10⟩] :=
    .cons hallows .nil
  exact ⟨hbills, billed_spend_within hmax hdeps (guarded_run_of_evaluate hs) (.inl rfl) _ hbills⟩

def thrownThenCalled : List Event :=
  [.run none 0, .loopHead 0, .dispatch ⟨0, 0, 0⟩, .driverThrow, .slept, .turnEnd 0, .loopHead 0,
    .dispatch ⟨0, 0, 0⟩]

/-- Both calls may be billed at the output bound, which is twice the ceiling. -/
theorem thrown_call_is_not_committed : ∃ s bills,
    Run ((runtimeSystem plainRuntime emptyArgumentsDigest (.create meteredDeps) 0).guarded
      fun _ e => keepsCeiling oneCallCeiling e = true) thrownThenCalled s ∧
    validateSpendCeiling oneCallCeiling = true ∧
    List.Forall₂ (Allows oneCallCeiling) (register thrownThenCalled).calls bills ∧
    ¬ billedUsd oneCallCeiling bills ≤ oneCallCeiling.maxSpendUsd := by
  have hevaluated : (evaluate (restrict (advance plainRuntime emptyArgumentsDigest) fun _ e =>
      keepsCeiling oneCallCeiling e = true) meteredStart thrownThenCalled).isSome = true := by
    decide +kernel
  obtain ⟨s, hs⟩ := Option.isSome_iff_exists.mp hevaluated
  have hallows : Allows oneCallCeiling ⟨0, none⟩ ⟨0, 1000⟩ := by
    refine ⟨?_, le_rfl, ?_⟩
    · exact (zero_mul _).ge
    · intro bytes h
      contradiction
  refine ⟨s, [⟨0, 1000⟩, ⟨0, 1000⟩], guarded_run_of_evaluate hs, by decide +kernel,
    .cons hallows (.cons hallows .nil), ?_⟩
  decide +kernel

end NightWatch.AgentRuntime.BilledSpend
