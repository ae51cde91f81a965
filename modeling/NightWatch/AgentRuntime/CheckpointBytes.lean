import NightWatch.AgentRuntime.Checkpoint
import NightWatch.Lib.SelfCount

namespace NightWatch.AgentRuntime.CheckpointBytes

open Lib.JsText Lib.JsData Lib.JsRuntime Lib.Json Lib.SelfCount AgentProtocol.Budget
  AgentRuntime.State AgentRuntime.Checkpoint

variable {rt : Runtime} {state : AgentRuntimeState} {resumeCursor : JsString}

def sizedDocument (state : AgentRuntimeState) (resumeCursor : JsString) (bytes : Nat) : JsValue :=
  checkpointDocument (candidate state resumeCursor bytes)

/-- The text of the document is longer by the digits of the count only. -/
def SizedByCount (rt : Runtime) (state : AgentRuntimeState) (resumeCursor : JsString) : Prop :=
  ∃ constant, ∀ bytes, byteLength (rt.jsonStringify (sizedDocument state resumeCursor bytes)) =
    constant + (decimal bytes).length

theorem fixedPoint_eq_search (fuel bytes : Nat) : fixedPoint rt state resumeCursor fuel bytes =
      search (measured rt state resumeCursor) fuel bytes := by
  induction fuel generalizing bytes with
  | zero => rfl
  | succ fuel ih =>
      rw [fixedPoint, search, ih]

theorem exists_fixedPoint (h : SizedByCount rt state resumeCursor) :
    ∃ bytes, fixedPoint rt state resumeCursor checkpointBytesFixedPointIterations
      (ledgerOf state).checkpointBytes = some bytes := by
  obtain ⟨constant, hsize⟩ := h
  have hmeasure : ∀ bytes, measured rt state resumeCursor bytes =
      (ledgerOf state).checkpointBytes + constant + width bytes := by
    intro bytes
    rw [measured, Nat.add_assoc]
    exact congrArg _ (hsize bytes)
  rw [fixedPoint_eq_search]
  exact exists_size hmeasure (Nat.le_add_right _ _) (by decide)

theorem finalizeCheckpoint_cases (h : SizedByCount rt state resumeCursor) :
    ∃ bytes, measured rt state resumeCursor bytes = bytes ∧
      finalizeCheckpoint rt state resumeCursor =
        (assertCheckpointHasNoSecrets (rt.jsonStringify (sizedDocument state resumeCursor bytes))).map
          fun _ => candidate state resumeCursor bytes := by
  obtain ⟨bytes, hbytes⟩ := exists_fixedPoint h
  refine ⟨bytes, ?_, ?_⟩
  · rw [fixedPoint_eq_search] at hbytes
    exact search_fixed hbytes
  · rw [finalizeCheckpoint, hbytes]
    cases hsecret : assertCheckpointHasNoSecrets
        (rt.jsonStringify (sizedDocument state resumeCursor bytes)) with
    | error refused =>
        dsimp only [sizedDocument] at hsecret
        dsimp only
        rw [hsecret]
        rfl
    | ok passed =>
        dsimp only [sizedDocument] at hsecret
        dsimp only
        rw [hsecret]
        rfl

/-- A document is refused for its secrets only, and a returned one records the bytes before it
and its own. -/
theorem checkpoint_records_its_size (rt : Runtime) (state : AgentRuntimeState)
    (resumeCursor : JsString) (hledger : state.byteLedger.isSafe = true)
    (hsized : SizedByCount rt state resumeCursor) :
    (∃ bytes, fixedPoint rt state resumeCursor checkpointBytesFixedPointIterations
      state.byteLedger.checkpointBytes = some bytes ∧ (assertCheckpointHasNoSecrets
          (rt.jsonStringify (sizedDocument state resumeCursor bytes)) = .ok () →
        finalizeCheckpoint rt state resumeCursor = .ok (candidate state resumeCursor bytes))) ∧
    (∀ refused, finalizeCheckpoint rt state resumeCursor = .error refused →
      refused.code = .secretDetected) ∧
    (∀ checkpoint, finalizeCheckpoint rt state resumeCursor = .ok checkpoint →
      checkpoint.state.byteLedger.checkpointBytes = state.byteLedger.checkpointBytes +
        byteLength (rt.jsonStringify (checkpointDocument checkpoint))) := by
  have hprior : ledgerOf state = state.byteLedger := if_pos hledger
  obtain ⟨found, hfound⟩ := exists_fixedPoint hsized
  obtain ⟨bytes, hmeasured, hcases⟩ := finalizeCheckpoint_cases hsized
  refine ⟨⟨found, ?_, ?_⟩, ?_, ?_⟩
  · rw [hprior] at hfound
    exact hfound
  · intro hclear
    rw [finalizeCheckpoint, hfound]
    dsimp only
    dsimp only [sizedDocument] at hclear
    rw [hclear]
    rfl
  · intro refused hrefused
    rw [hcases] at hrefused
    unfold assertCheckpointHasNoSecrets at hrefused
    split_ifs at hrefused
    · obtain rfl := Except.error.inj hrefused
      rfl
    · obtain rfl := Except.error.inj hrefused
      rfl
    · obtain rfl := Except.error.inj hrefused
      rfl
    · contradiction
  · intro checkpoint hok
    rw [hcases] at hok
    cases hsecret : assertCheckpointHasNoSecrets
        (rt.jsonStringify (sizedDocument state resumeCursor bytes)) with
    | error refused =>
        rw [hsecret] at hok
        contradiction
    | ok passed =>
        rw [hsecret] at hok
        obtain rfl := Except.ok.inj hok
        rw [measured, hprior] at hmeasured
        exact hmeasured.symm

def samplePolicy : AgentBudgetPolicy :=
  ⟨"CEILING".toList, 600000, 100, 100000, 100000, 100000, 100, 1000, 10, 10, 10, 10⟩

def sampleState : AgentRuntimeState where
  campaignId := "campaign".toList
  status := .running
  phase := .plan
  hypotheses := []
  actionLog := []
  evidenceRefs := []
  candidateIds := []
  knownTargets := []
  reproductionSurface := []
  byteLedger := ⟨0, 0, 0, 0, 0, 0, 0, 0, 0, 0, 0, 99⟩
  policy := samplePolicy
  usage := ⟨0, 0, 0, 0, 0, 0, 0, 0, 0, 0⟩
  terminationReason := none

theorem exists_size_ledger (ledger : AgentByteLedger) :
    ∃ rest, ∀ bytes, byteLength (text (ledgerDocument { ledger with checkpointBytes := bytes })) =
      rest + width bytes := by
  obtain ⟨rest, hrest⟩ := exists_size_field ((ledgerFields ledger).take 12) []
    "checkpointBytes".toList
  refine ⟨rest, ?_⟩
  intro bytes
  have hfields : ledgerFields { ledger with checkpointBytes := bytes } =
      (ledgerFields ledger).take 12 ++ [("checkpointBytes".toList, .num (.ofNat bytes))] := rfl
  rw [ledgerDocument, hfields, hrest, text, byteLength_numberText]

theorem exists_size_state (state : AgentRuntimeState) (ledger : AgentByteLedger) : ∃ rest, ∀ bytes,
      byteLength (text (.obj (stateFields (withCheckpointBytes state ledger bytes)))) =
        rest + width bytes := by
  have hfields : ∃ before after, ∀ bytes, stateFields (withCheckpointBytes state ledger bytes) =
      before ++ ("byteLedger".toList,
        ledgerDocument { ledger with checkpointBytes := bytes }) :: after := by
    dsimp only [stateFields, withCheckpointBytes]
    exact ⟨_, _, fun _ => rfl⟩
  obtain ⟨before, after, hsplit⟩ := hfields
  obtain ⟨outer, houter⟩ := exists_size_field before after "byteLedger".toList
  obtain ⟨inner, hinner⟩ := exists_size_ledger ledger
  refine ⟨outer + inner, ?_⟩
  intro bytes
  rw [hsplit, houter, hinner, Nat.add_assoc]

theorem sizedByCount_plainRuntime (state : AgentRuntimeState) (resumeCursor : JsString) :
    SizedByCount plainRuntime state resumeCursor := by
  obtain ⟨outer, houter⟩ := exists_size_field
    [("schemaVersion".toList, .str agentCheckpointVersion),
      ("campaignId".toList, .str state.campaignId)]
    [("resumeCursor".toList, .str resumeCursor)] "state".toList
  obtain ⟨inner, hinner⟩ := exists_size_state state (ledgerOf state)
  refine ⟨outer + inner, ?_⟩
  intro bytes
  have hdocument : sizedDocument state resumeCursor bytes =
      .obj ([("schemaVersion".toList, .str agentCheckpointVersion),
        ("campaignId".toList, .str state.campaignId)] ++
        ("state".toList, .obj (stateFields (withCheckpointBytes state (ledgerOf state) bytes))) ::
        [("resumeCursor".toList, .str resumeCursor)]) := rfl
  have htext : ∀ value, plainRuntime.jsonStringify value = text value := fun _ => rfl
  rw [htext, hdocument, houter, hinner, Nat.add_assoc, width]

theorem checkpoint_records_its_size_sample :
    (∃ bytes, fixedPoint plainRuntime sampleState "campaign:turn:99".toList
      checkpointBytesFixedPointIterations 99 = some bytes ∧
      (assertCheckpointHasNoSecrets (plainRuntime.jsonStringify
          (sizedDocument sampleState "campaign:turn:99".toList bytes)) = .ok () →
        finalizeCheckpoint plainRuntime sampleState "campaign:turn:99".toList =
          .ok (candidate sampleState "campaign:turn:99".toList bytes))) ∧
    (∀ refused, finalizeCheckpoint plainRuntime sampleState "campaign:turn:99".toList =
      .error refused → refused.code = .secretDetected) ∧
    (∀ checkpoint, finalizeCheckpoint plainRuntime sampleState "campaign:turn:99".toList =
      .ok checkpoint → checkpoint.state.byteLedger.checkpointBytes = 99 +
        byteLength (plainRuntime.jsonStringify (checkpointDocument checkpoint))) :=
  checkpoint_records_its_size plainRuntime sampleState "campaign:turn:99".toList (by decide)
    (sizedByCount_plainRuntime _ _)

end NightWatch.AgentRuntime.CheckpointBytes
